import ClientGen.Main
import ClientGen.Proofs.Api.Acceptance
import ClientGen.Proofs.Api.Accounting
import ClientGen.Proofs.Api.Grouping
import ClientGen.Proofs.Api.Responses
import ClientGen.Proofs.Client.BrokenTemplates
import ClientGen.Proofs.Client.Confinement
import ClientGen.Proofs.Client.Dangling
import ClientGen.Proofs.Client.DeclaredNames
import ClientGen.Proofs.Client.Growth
import ClientGen.Proofs.Client.Introduced
import ClientGen.Proofs.Client.Obstacles
import ClientGen.Proofs.Client.Overwriting
import ClientGen.Proofs.Client.PathAccess
import ClientGen.Proofs.Client.Respelled
import ClientGen.Proofs.Client.Specifiers
import ClientGen.Proofs.Client.Summary
import ClientGen.Proofs.Client.Writing
import ClientGen.Proofs.CommandLine.DryRun
import ClientGen.Proofs.CommandLine.Dumps
import ClientGen.Proofs.CommandLine.Inspection
import ClientGen.Proofs.CommandLine.Repeated
import ClientGen.Proofs.CommandLine.Untouched
import ClientGen.Proofs.Console.Session
import ClientGen.Proofs.Document.Hints
import ClientGen.Proofs.Document.Loading
import ClientGen.Proofs.Layers
import ClientGen.Proofs.Name.Compound
import ClientGen.Proofs.Name.Operation
import ClientGen.Proofs.Schema.Composition
import ClientGen.Proofs.Schema.Keywords
import ClientGen.Proofs.Schema.Optionality
import ClientGen.Proofs.TypeScript.Depth
import ClientGen.Proofs.TypeScript.DistinctKeys
import ClientGen.Proofs.TypeScript.Nesting
import ClientGen.Proofs.TypeScript.PathReading
