import ClientGen.Proofs.Yaml.Scanning
import Mathlib.Data.List.InsertIdx

/-!
# Where the token stream ends

No step of a scanner leaves the text or adds a token that blames anything but what is in the text.
So the token that ends a stream early blames an escape only where the text has it.
-/

namespace ClientGen.Yaml

namespace Scanner

open Cursor

variable {text : List Char} {s : Scanner} {token : Token}

/-- A state on a text, of which no token blames anything that is not in the text. -/
structure Fits (text : List Char) (s : Scanner) : Prop where
  /-- The place is on the text. -/
  place : s.cursor.On text
  /-- The tokens so far. -/
  tokens : ∀ token ∈ s.tokens, IsSound text token

/-- A step that leads to such a state or gives the text up for what is in it. -/
abbrev Steps (text : List Char) (result : Except YamlFault Scanner) : Prop :=
  Yields (Fits text) (IsReason text) result

/-! ## Parts of steps -/

theorem fits_start (text : List Char) : (start text).Fits text :=
  ⟨on_start text, List.forall_mem_nil _⟩

theorem Fits.emit (fits : s.Fits text) (sound : IsSound text token) : (s.emit token).Fits text :=
  ⟨fits.place, List.forall_mem_cons.mpr ⟨sound, fits.tokens⟩⟩

theorem Fits.emitAt (fits : s.Fits text) (position : Nat) (sound : IsSound text token) :
    (s.emitAt position token).Fits text := by
  refine ⟨fits.place, fun other member => ?_⟩
  rcases List.eq_or_mem_of_mem_insertIdx member with rfl | earlier
  · exact sound
  · exact fits.tokens other earlier

theorem Fits.allowing (fits : s.Fits text) (allowed : Bool) : (s.allowing allowed).Fits text :=
  ⟨fits.place, fits.tokens⟩

theorem Fits.advance (fits : s.Fits text) (distance : Nat) : (s.advance distance).Fits text :=
  ⟨on_skip fits.place distance, fits.tokens⟩

theorem Fits.moved {after : Cursor} (fits : s.Fits text) (behind : after.On text) :
    ({ s with cursor := after } : Scanner).Fits text :=
  ⟨behind, fits.tokens⟩

theorem Fits.closeBlocks (fits : s.Fits text) (column : Int) (outer : List Int) :
    (closeBlocks column outer s).Fits text := by
  induction outer generalizing s with
  | nil => exact fits
  | cons previous outer ih =>
      rw [Scanner.closeBlocks]
      split
      · have closed : (s.emit .blockEnd).Fits text := fits.emit nofun
        exact ih ⟨closed.place, closed.tokens⟩
      · exact fits

theorem Fits.unwind (fits : s.Fits text) (column : Int) : (s.unwind column).Fits text := by
  rw [Scanner.unwind]
  split
  · exact fits
  · exact fits.closeBlocks column _

theorem Fits.indentTo (fits : s.Fits text) (column : Int) : (s.indentTo column).2.Fits text := by
  rw [Scanner.indentTo]
  split
  · exact ⟨fits.place, fits.tokens⟩
  · exact fits

theorem Fits.openBlock (fits : s.Fits text) (column : Int) (sound : IsSound text token) :
    (s.openBlock token column).Fits text := by
  have indented := fits.indentTo column
  rw [Scanner.openBlock]
  split
  · next opened =>
      rw [opened] at indented
      exact indented.emit sound
  · next opened =>
      rw [opened] at indented
      exact indented

/-! ## Keys -/

theorem Fits.dropStaleKeys (fits : s.Fits text) : Steps text s.dropStaleKeys := by
  rw [Scanner.dropStaleKeys]
  exact yields_refuse_or_ok ⟨fits.place, fits.tokens⟩ _

theorem Fits.dropKey (fits : s.Fits text) : Steps text s.dropKey := by
  rw [Scanner.dropKey]
  split
  · exact yields_ok fits
  · exact yields_refuse_or_ok ⟨fits.place, fits.tokens⟩ _

theorem Fits.noteKey (fits : s.Fits text) : Steps text s.noteKey := by
  rw [Scanner.noteKey]
  split
  · exact fits.dropKey.bind fun dropped kept => yields_ok ⟨kept.place, kept.tokens⟩
  · exact yields_ok fits

/-! ## Between tokens -/

theorem Fits.skipBlank (fits : s.Fits text) (fuel : Nat) : (skipBlank fuel s).Fits text := by
  induction fuel generalizing s with
  | zero => exact fits
  | succ fuel ih =>
      have behind := fits.moved (on_lineBreak (on_skipComment (on_skipSpaces fits.place)))
      rw [Scanner.skipBlank]
      dsimp only
      split
      · exact behind
      · exact ih (behind.allowing _)

theorem Fits.toNextToken (fits : s.Fits text) : s.toNextToken.Fits text := by
  rw [Scanner.toNextToken]
  split
  · exact (fits.advance 1).skipBlank _
  · exact fits.skipBlank _

/-! ## Tokens by kind -/

theorem Fits.keyLike {scan : Scan Token} (fits : s.Fits text)
    (scans : ∀ cursor : Cursor, cursor.On text → ScansToken text (scan cursor)) :
    Steps text (s.keyLike scan) := by
  rw [Scanner.keyLike]
  refine fits.noteKey.bind fun noted kept => (scans noted.cursor kept.place).bind ?_
  rintro ⟨token, after⟩ ⟨sound, behind⟩
  exact yields_ok (((kept.moved behind).allowing false).emit sound)

theorem Fits.directive (fits : s.Fits text) : Steps text s.directive := by
  rw [Scanner.directive]
  refine (fits.unwind (-1)).dropKey.bind fun dropped kept =>
    (scansToken_directive kept.place).bind ?_
  rintro ⟨token, after⟩ ⟨sound, behind⟩
  exact yields_ok (((kept.moved behind).allowing false).emit sound)

theorem Fits.documentMarker (fits : s.Fits text) (sound : IsSound text token) :
    Steps text (s.documentMarker token) :=
  (fits.unwind (-1)).dropKey.bind fun _ kept =>
    yields_ok (((kept.allowing false).advance 3).emit sound)

theorem Fits.flowStart (fits : s.Fits text) (sound : IsSound text token) :
    Steps text (s.flowStart token) := by
  refine fits.noteKey.bind fun noted kept => ?_
  have deeper : ({ noted with flowLevel := noted.flowLevel + 1 } : Scanner).Fits text :=
    ⟨kept.place, kept.tokens⟩
  exact yields_ok (((deeper.allowing true).advance 1).emit sound)

theorem Fits.flowEnd (fits : s.Fits text) (sound : IsSound text token) :
    Steps text (s.flowEnd token) := by
  refine fits.dropKey.bind fun dropped kept => ?_
  have higher : ({ dropped with flowLevel := dropped.flowLevel - 1 } : Scanner).Fits text :=
    ⟨kept.place, kept.tokens⟩
  exact yields_ok (((higher.allowing false).advance 1).emit sound)

theorem Fits.flowEntry (fits : s.Fits text) : Steps text s.flowEntry :=
  fits.dropKey.bind fun _ kept => yields_ok (((kept.allowing true).advance 1).emit nofun)

theorem Fits.openIndicated (fits : s.Fits text) (sound : IsSound text token) :
    Steps text (s.openIndicated token) := by
  rw [Scanner.openIndicated]
  split
  · exact yields_ok fits
  · exact yields_ok_or_refuse (fits.openBlock _ sound) _

theorem Fits.blockEntry (fits : s.Fits text) : Steps text s.blockEntry := by
  have indicated : Steps text (s.openIndicated .blockSequenceStart) := fits.openIndicated nofun
  exact indicated.bind fun _ opened =>
    (opened.allowing true).dropKey.bind fun _ kept => yields_ok ((kept.advance 1).emit nofun)

theorem Fits.explicitKey (fits : s.Fits text) : Steps text s.explicitKey := by
  have indicated : Steps text (s.openIndicated .blockMappingStart) := fits.openIndicated nofun
  exact indicated.bind fun _ opened =>
    (opened.allowing _).dropKey.bind fun _ kept => yields_ok ((kept.advance 1).emit nofun)

theorem Fits.valueOfKey (fits : s.Fits text) (key : PossibleKey) (others : List PossibleKey) :
    (s.valueOfKey key others).Fits text := by
  have settled : ({ s with possibleKeys := others } : Scanner).Fits text :=
    ⟨fits.place, fits.tokens⟩
  have keyed : (({ s with possibleKeys := others } : Scanner).emitAt key.position .key).Fits text :=
    settled.emitAt key.position nofun
  have indented := keyed.indentTo key.place.column
  rw [Scanner.valueOfKey]
  split
  · exact keyed.allowing false
  · split
    · next inner opened =>
        rw [opened] at indented
        have mapped : (inner.emitAt key.position .blockMappingStart).Fits text :=
          indented.emitAt key.position nofun
        exact mapped.allowing false
    · next opened =>
        rw [opened] at indented
        exact indented.allowing false

theorem Fits.value (fits : s.Fits text) : Steps text s.value := by
  have indicated : Steps text (s.openIndicated .blockMappingStart) := fits.openIndicated nofun
  rw [Scanner.value]
  split
  · next key others taken =>
      exact yields_ok (((fits.valueOfKey key others).advance 1).emit nofun)
  · refine indicated.bind fun _ opened => ?_
    exact (opened.allowing _).dropKey.bind fun _ kept => yields_ok ((kept.advance 1).emit nofun)

theorem Fits.blockScalar (fits : s.Fits text) : Steps text s.blockScalar := by
  rw [Scanner.blockScalar]
  refine (fits.allowing true).dropKey.bind fun dropped kept =>
    (scansToken_blockScalar dropped.indent kept.place).bind ?_
  rintro ⟨token, after⟩ ⟨sound, behind⟩
  exact yields_ok ((kept.moved behind).emit sound)

theorem Fits.plainScalar (fits : s.Fits text) : Steps text s.plainScalar := by
  refine fits.noteKey.bind fun noted kept => ?_
  have behind := on_scanPlain noted.inFlow noted.indent kept.place
  exact yields_ok (((kept.moved behind).allowing _).emit nofun)

theorem Fits.streamEnd (fits : s.Fits text) : Steps text s.streamEnd :=
  (fits.unwind (-1)).dropKey.bind fun _ kept => yields_ok (kept.emit nofun)

/-! ## Runs -/

theorem steps_ite {condition : Prop} [Decidable condition] {first second : Step}
    (yes : Steps text (first s)) (no : Steps text (second s)) :
    Steps text ((if condition then first else second) s) := by
  split
  · exact yes
  · exact no

theorem Fits.stepAt (fits : s.Fits text) : Steps text (s.stepAt s) := by
  rw [Scanner.stepAt]
  refine steps_ite fits.directive ?_
  refine steps_ite (fits.documentMarker nofun) ?_
  refine steps_ite (fits.documentMarker nofun) ?_
  refine steps_ite (fits.flowStart nofun) ?_
  refine steps_ite (fits.flowStart nofun) ?_
  refine steps_ite (fits.flowEnd nofun) ?_
  refine steps_ite (fits.flowEnd nofun) ?_
  refine steps_ite fits.flowEntry ?_
  refine steps_ite fits.blockEntry ?_
  refine steps_ite fits.explicitKey ?_
  refine steps_ite fits.value ?_
  refine steps_ite (fits.keyLike fun _ here => scansToken_named (fun _ => nofun) here) ?_
  refine steps_ite (fits.keyLike fun _ here => scansToken_named (fun _ => nofun) here) ?_
  refine steps_ite (fits.keyLike fun _ here => scansToken_tag here) ?_
  refine steps_ite fits.blockScalar ?_
  refine steps_ite (fits.keyLike fun _ here => scansToken_quoted here) ?_
  exact steps_ite fits.plainScalar (yields_refuse _)

/-- A state that cannot go on blames what is in the text. -/
theorem sound_broken {result : Except YamlFault Scanner} {reason : YamlFault} (fits : s.Fits text)
    (steps : Steps text result) (failed : result = .error reason) :
    ∀ token ∈ .broken reason :: s.tokens, IsSound text token := by
  refine List.forall_mem_cons.mpr ⟨?_, fits.tokens⟩
  rintro _ ⟨⟩
  exact steps.reason reason failed

/-- A step of the scanner: blanks, and then the end of the text or a token. -/
theorem run_succ (fuel : Nat) (s : Scanner) :
    s.run (fuel + 1) =
      match s.toNextToken.dropStaleKeys with
      | .error fault => .broken fault :: s.toNextToken.tokens
      | .ok s =>
          let s := s.unwind s.cursor.column
          if s.cursor.rest.isEmpty then
            match s.streamEnd with
            | .error fault => .broken fault :: s.tokens
            | .ok s => s.tokens
          else
            match s.stepAt s with
            | .error fault => .broken fault :: s.tokens
            | .ok s => run fuel s := by
  rfl

theorem sound_run (fits : s.Fits text) (fuel : Nat) : ∀ token ∈ s.run fuel, IsSound text token := by
  induction fuel generalizing s with
  | zero => exact fits.tokens
  | succ fuel ih =>
      have ready := fits.toNextToken
      rw [run_succ]
      dsimp only
      split
      · next failed => exact sound_broken ready ready.dropStaleKeys failed
      · next fresh kept =>
          have closed := (ready.dropStaleKeys.result fresh kept).unwind fresh.cursor.column
          split
          · split
            · next failed => exact sound_broken closed closed.streamEnd failed
            · next ended => exact (closed.streamEnd.result _ ended).tokens
          · split
            · next failed => exact sound_broken closed closed.stepAt failed
            · next stepped => exact ih (closed.stepAt.result _ stepped)

end Scanner

/-- A stream that ends early although no rule is broken ends at an escape of the text. -/
theorem hasEscape_of_broken {text : List Char} {fault : Fault}
    (member : .broken (.impossible fault) ∈ tokens text) : HasEscape text fault := by
  rw [tokens] at member
  split at member
  · have sound := Scanner.sound_run (Scanner.fits_start text) (text.length + 1)
    exact sound _ (List.mem_reverse.mp member) _ rfl
  · cases List.mem_singleton.mp member

end ClientGen.Yaml
