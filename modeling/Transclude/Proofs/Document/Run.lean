import Mathlib.Data.List.Forall2
import Transclude.Proofs.Document.Embed

/-!
# Runs over a document

The parts of a document are read off its lines one after another. A refreshed document is read into
the refreshed parts: what one step reads, one step reads again after a run, whatever follows
(`Step.refreshed`), and so for the steps of a whole document (`Reads.refreshed`). This takes
directives whose blocks are skipped as a whole.
-/

namespace Transclude

/-! ## Lines with directives -/

namespace Directive

theorem exists_of_ofLine {line : Text} {directive : Directive}
    (h : ofLine line = .ok (some directive)) :
    ∃ command, commandOf? line = some command ∧ ofCommand command = .ok directive := by
  unfold ofLine at h
  split at h
  · cases h
  next command hc =>
    obtain ⟨directive', hd, he⟩ := exists_of_map_eq_ok h
    exact ⟨command, hc, Option.some.inj he ▸ hd⟩

theorem reference_ne_nil_of_ofLine {line : Text} {directive : Directive}
    (h : ofLine line = .ok (some directive)) : directive.reference ≠ [] := by
  obtain ⟨command, -, hd⟩ := exists_of_ofLine h
  exact reference_ne_nil_of_ofCommand hd

theorem ignoresEnding_ofLine : Text.IgnoresEnding ofLine := fun eol he line => by
  simp only [ofLine, commandOf?, Text.ignoresEnding_trim eol he]

theorem ofLine?_eq_none_of_commandOf? {line command : Text} (h : commandOf? line = some command) :
    Fence.ofLine? line = none := by
  have htrim : tag ++ command = Text.trim line := by simpa [commandOf?, Text.after?] using h
  have htag : tag = '[' :: tag.tail := by decide
  rw [htag] at htrim
  exact Fence.ofLine?_eq_none_of_trim htrim.symm (by decide)

/-- A line with a directive opens no fence. -/
theorem ofLine?_eq_none_of_ofLine {line : Text} {directive : Directive}
    (h : ofLine line = .ok (some directive)) : Fence.ofLine? line = none := by
  obtain ⟨command, hc, -⟩ := exists_of_ofLine h
  exact ofLine?_eq_none_of_commandOf? hc

end Directive

/-! ## Reading parts -/

namespace Document

/-- A part is read off the lines below an open fence, if there is one. -/
inductive Step (bare : Bool) : Option Fence → List Text → Part → Option Fence → List Text → Prop
  | inside (fence : Fence) (line : Text) (rest : List Text) :
      Step bare (some fence) (line :: rest) (.copied line) (fenceAfter fence line) rest
  | opens {line : Text} {fence : Fence} (hf : Fence.ofLine? line = some fence) (rest : List Text) :
      Step bare none (line :: rest) (.copied line) (some fence) rest
  | plain {line : Text} (hf : Fence.ofLine? line = none) (hd : Directive.ofLine line = .ok none)
      (rest : List Text) : Step bare none (line :: rest) (.copied line) none rest
  | directive {line : Text} {rest block below : List Text} {directive : Directive}
      (hd : Directive.ofLine line = .ok (some directive))
      (hb : Block.split bare rest = .ok (block, below)) :
      Step bare none (line :: rest) (.directive line directive block) none below

/-- Parts are read off the lines one after another. -/
inductive Reads (bare : Bool) : Option Fence → List Text → List Part → Option Fence → List Text → Prop
  | nil (fence : Option Fence) (lines : List Text) : Reads bare fence lines [] fence lines
  | cons {fence fence' fence'' : Option Fence} {lines lines' lines'' : List Text} {part : Part}
      {parts : List Part} (h : Step bare fence lines part fence' lines')
      (hr : Reads bare fence' lines' parts fence'' lines'') :
      Reads bare fence lines (part :: parts) fence'' lines''

variable {bare : Bool} {fence fence' fence'' : Option Fence} {lines lines' lines'' : List Text}
  {part : Part} {parts parts₁ parts₂ : List Part}

theorem Step.partsFrom_eq (h : Step bare fence lines part fence' lines') :
    partsFrom bare fence lines = part :: partsFrom bare fence' lines' := by
  cases h with
  | inside fence line rest => rw [partsFrom]
  | opens hf rest => rw [partsFrom]; simp [hf]
  | plain hf hd rest => rw [partsFrom]; simp [hf, hd]
  | directive hd hb =>
      rw [partsFrom]
      simp only [Directive.ofLine?_eq_none_of_ofLine hd, hd]
      split
      · next he => rw [hb] at he; cases he
      · next he => rw [hb] at he; cases he; rfl

theorem partsFrom_of_split_error {line : Text} {rest : List Text} {directive : Directive} {cause : Cause}
    (hd : Directive.ofLine line = .ok (some directive)) (hb : Block.split bare rest = .error cause) :
    partsFrom bare none (line :: rest) = [.broken line cause] := by
  rw [partsFrom]
  simp only [Directive.ofLine?_eq_none_of_ofLine hd, hd]
  split
  · next he => rw [hb] at he; cases he; rfl
  · next he => rw [hb] at he; cases he

theorem Reads.partsFrom_eq (h : Reads bare fence lines parts fence' lines') :
    partsFrom bare fence lines = parts ++ partsFrom bare fence' lines' := by
  induction h with
  | nil => rfl
  | cons h _ ih => rw [h.partsFrom_eq, ih, List.cons_append]

theorem partsFrom_nil : partsFrom bare fence [] = [] := by
  cases fence <;> rw [partsFrom]

theorem partsFrom_eq_nil (h : partsFrom bare fence lines = []) : lines = [] := by
  cases lines with
  | nil => rfl
  | cons line rest =>
      cases fence with
      | some fence =>
          rw [partsFrom] at h
          cases h
      | none =>
          rw [partsFrom] at h
          repeat' split at h
          all_goals cases h

/-- The first part was read off the lines and the others off what was left, or the reading ended at the
first line: it holds a command that writes no directive, or the block below the directive has no end. -/
theorem step_or_broken_of_partsFrom (h : partsFrom bare fence lines = part :: parts) :
    (∃ fence' lines', Step bare fence lines part fence' lines' ∧ partsFrom bare fence' lines' = parts) ∨
      ∃ line rest cause, lines = line :: rest ∧ part = .broken line cause ∧
        ((∃ fault, Directive.ofLine line = .error fault) ∨
          ∃ d, Directive.ofLine line = .ok (some d) ∧ Block.split bare rest = .error cause) := by
  cases lines with
  | nil =>
      rw [partsFrom_nil] at h
      cases h
  | cons line rest =>
      cases fence with
      | some fence =>
          rw [partsFrom] at h
          obtain ⟨rfl, rfl⟩ := List.cons.inj h
          exact Or.inl ⟨_, _, .inside fence line rest, rfl⟩
      | none =>
          rw [partsFrom] at h
          split at h
          · next fence hf =>
            obtain ⟨rfl, rfl⟩ := List.cons.inj h
            exact Or.inl ⟨_, _, .opens hf rest, rfl⟩
          next hf =>
            split at h
            · next fault hd =>
              obtain ⟨rfl, -⟩ := List.cons.inj h
              exact Or.inr ⟨line, rest, _, rfl, rfl, Or.inl ⟨fault, hd⟩⟩
            · next hd =>
              obtain ⟨rfl, rfl⟩ := List.cons.inj h
              exact Or.inl ⟨_, _, .plain hf hd rest, rfl⟩
            · next d hd =>
              split at h
              · next cause hb =>
                obtain ⟨rfl, -⟩ := List.cons.inj h
                exact Or.inr ⟨line, rest, cause, rfl, rfl, Or.inr ⟨d, hd, hb⟩⟩
              · next block below hb =>
                obtain ⟨rfl, rfl⟩ := List.cons.inj h
                exact Or.inl ⟨_, _, .directive hd hb, rfl⟩

theorem exists_reads_of_partsFrom (h : partsFrom bare fence lines = parts₁ ++ parts₂)
    (hp : ∀ part ∈ parts₁, part.isBroken = false) :
    ∃ fence' lines', Reads bare fence lines parts₁ fence' lines' ∧
      partsFrom bare fence' lines' = parts₂ := by
  induction parts₁ generalizing fence lines with
  | nil => exact ⟨fence, lines, .nil fence lines, h⟩
  | cons part parts ih =>
      rcases step_or_broken_of_partsFrom h with ⟨fence₁, lines₁, hs, hrest⟩ | ⟨_, _, _, -, rfl, -⟩
      · obtain ⟨fence', lines', hr, hbelow⟩ := ih hrest fun part hm => hp part (by simp [hm])
        exact ⟨fence', lines', .cons hs hr, hbelow⟩
      · cases hp _ List.mem_cons_self

theorem exists_reads (h : ∀ part ∈ partsFrom bare fence lines, part.isBroken = false) :
    ∃ fence', Reads bare fence lines (partsFrom bare fence lines) fence' [] := by
  obtain ⟨fence', lines', hr, hnil⟩ := exists_reads_of_partsFrom (List.append_nil _).symm h
  exact ⟨fence', partsFrom_eq_nil hnil ▸ hr⟩

theorem Step.source_append (h : Step bare fence lines part fence' lines') :
    part.source ++ lines' = lines := by
  cases h with
  | inside | opens | plain => rfl
  | directive hd hb => exact congrArg (_ :: ·) (Block.append_of_split hb)

theorem Reads.source_append (h : Reads bare fence lines parts fence' lines') :
    parts.flatMap Part.source ++ lines' = lines := by
  induction h with
  | nil => rfl
  | cons h _ ih => rw [List.flatMap_cons, List.append_assoc, ih, h.source_append]

theorem Reads.flatMap_source (h : Reads bare fence lines parts fence' []) :
    parts.flatMap Part.source = lines := by
  rw [← h.source_append, List.append_nil]

theorem Reads.partsFrom_eq_of_nil (h : Reads bare fence lines parts fence' []) :
    partsFrom bare fence lines = parts := by
  rw [h.partsFrom_eq, partsFrom_nil, List.append_nil]

theorem Reads.of_append (h : Reads bare fence lines (parts₁ ++ parts₂) fence'' lines'') :
    ∃ fence' lines', Reads bare fence lines parts₁ fence' lines' ∧
      Reads bare fence' lines' parts₂ fence'' lines'' := by
  induction parts₁ generalizing fence lines with
  | nil => exact ⟨fence, lines, .nil fence lines, h⟩
  | cons part parts ih =>
      cases h with
      | cons hs hr =>
          obtain ⟨fence', lines', h₁, h₂⟩ := ih hr
          exact ⟨fence', lines', .cons hs h₁, h₂⟩

end Document

/-! ## Outcomes -/

theorem mapError_map {ε ε' α β : Type} (r : Except ε α) (f : α → β) (g : ε → ε') :
    (r.map f).mapError g = (r.mapError g).map f := by
  cases r <;> rfl

theorem mapError_eq_ok_iff {ε ε' α : Type} {r : Except ε α} {g : ε → ε'} {a : α} :
    r.mapError g = .ok a ↔ r = .ok a := by
  cases r <;> simp [Except.mapError]

theorem exists_of_mapError_eq_error {ε ε' α : Type} {r : Except ε α} {g : ε → ε'} {e' : ε'}
    (h : r.mapError g = .error e') : ∃ e, r = .error e ∧ g e = e' := by
  cases r with
  | error e => exact ⟨e, rfl, Except.error.inj h⟩
  | ok a => cases h

namespace Outcome

variable {α β γ : Type}

theorem after_nil (outcome : Outcome (List α)) : outcome.after [] ([] ++ ·) = outcome := by
  obtain ⟨calls, result⟩ := outcome
  cases result <;> rfl

theorem after_after (calls calls' : List Call) (f : α → β) (g : β → γ) (outcome : Outcome α) :
    (outcome.after calls f).after calls' g = outcome.after (calls' ++ calls) (g ∘ f) := by
  obtain ⟨made, result⟩ := outcome
  cases result <;> simp [after, Except.map]

end Outcome

/-! ## Refreshed parts -/

namespace Part

/-- A part and what a run makes of it. -/
inductive Refreshed (sources : Sources) : Part → Part → Prop
  | copied (line : Text) : Refreshed sources (.copied line) (.copied line)
  | directive {line : Text} {directive : Directive} {block : List Text}
      (h : sources.embed directive (Text.lineEnding line) = .ok block) (old : List Text) :
      Refreshed sources (.directive line directive old)
        (.directive (Text.completeLine (Text.lineEnding line) line) directive
          (Text.lines block.flatten))

/-- What a run makes of the part, if its block can be made. -/
def refreshed? (sources : Sources) : Part → Option Part
  | .copied line => some (.copied line)
  | .directive line d _ =>
    (sources.embed d (Text.lineEnding line)).toOption.map fun block =>
      .directive (Text.completeLine (Text.lineEnding line) line) d (Text.lines block.flatten)
  | .broken _ _ => none

theorem refreshed_iff {sources : Sources} {part part' : Part} :
    Refreshed sources part part' ↔ refreshed? sources part = some part' := by
  constructor
  · intro h
    cases h with
    | copied line => rfl
    | directive he old => simp [refreshed?, he, Except.toOption]
  · intro h
    cases part with
    | copied line =>
        obtain rfl := Option.some.inj h
        exact .copied line
    | directive line d old =>
        cases he : sources.embed d (Text.lineEnding line) with
        | error cause => simp [refreshed?, he, Except.toOption] at h
        | ok block =>
            rw [refreshed?, he] at h
            obtain rfl := Option.some.inj h
            exact .directive he old
    | broken line fault => cases h

instance (sources : Sources) (part part' : Part) : Decidable (Refreshed sources part part') :=
  decidable_of_iff _ refreshed_iff.symm

theorem rightUnique_refreshed (sources : Sources) : Relator.RightUnique (Refreshed sources) :=
  fun _ _ _ h₁ h₂ => Option.some.inj ((refreshed_iff.mp h₁).symm.trans (refreshed_iff.mp h₂))

/-- If the part is a directive, the block that it gets is skipped as a whole. -/
def Skippable (languages : Languages) : Part → Prop
  | .directive _ d _ => ∀ language, languages.resolve d = .ok language → Block.Skippable d language
  | .copied _ | .broken _ _ => True

instance decidableForallOk {ε α : Type} {p : α → Prop} [DecidablePred p] (r : Except ε α) :
    Decidable (∀ a, r = .ok a → p a) :=
  match r with
  | .error _ => isTrue fun _ h => nomatch h
  | .ok a => decidable_of_iff (p a) ⟨fun h _ he => Except.ok.inj he ▸ h, fun h => h a rfl⟩

instance decidableForallSome {α : Type} {p : α → Prop} [DecidablePred p] (o : Option α) :
    Decidable (∀ a, o = some a → p a) :=
  match o with
  | none => isTrue fun _ h => nomatch h
  | some a => decidable_of_iff (p a) ⟨fun h _ he => Option.some.inj he ▸ h, fun h => h a rfl⟩

instance (languages : Languages) (part : Part) : Decidable (part.Skippable languages) :=
  match part with
  | .directive _ d _ =>
    inferInstanceAs (Decidable (∀ language, languages.resolve d = .ok language →
      Block.Skippable d language))
  | .copied _ => isTrue trivial
  | .broken _ _ => isTrue trivial

/-- The calls that the part takes. -/
def calls (sources : Sources) : Part → List Call
  | .directive _ d _ => sources.callsOf d
  | .copied _ | .broken _ _ => []

end Part

namespace Document

variable {bare : Bool} {fence fence' : Option Fence} {lines lines' : List Text}
  {part part' : Part} {parts parts' : List Part} {sources : Sources}

/-- What one step reads, one step reads again after a run, whatever follows. -/
theorem Step.refreshed (h : Step bare fence lines part fence' lines')
    (hr : Part.Refreshed sources part part') (hs : part.Skippable sources.languages)
    (bare' : Bool) (tail : List Text) :
    Step bare' fence (part'.source ++ tail) part' fence' tail := by
  cases hr with
  | copied line =>
      cases h with
      | inside fence => exact .inside fence line tail
      | opens hf => exact .opens hf tail
      | plain hf hd => exact .plain hf hd tail
  | @directive line _ block he old =>
      cases h with
      | directive hd hb =>
          have heol := Text.isEol_lineEnding line
          exact .directive (by rw [Directive.ignoresEnding_ofLine.completeLine heol, hd])
            (Sources.split_of_embed (Directive.reference_ne_nil_of_ofLine hd) heol he hs bare' tail)

theorem Reads.refreshed (h : Reads bare fence lines parts fence' lines')
    (hr : List.Forall₂ (Part.Refreshed sources) parts parts')
    (hs : ∀ part ∈ parts, part.Skippable sources.languages) (bare' : Bool) (tail : List Text) :
    Reads bare' fence (parts'.flatMap Part.source ++ tail) parts' fence' tail := by
  induction h generalizing parts' with
  | nil fence lines =>
      cases hr with
      | nil => exact .nil fence tail
  | cons h _ ih =>
      cases hr with
      | cons hp hr =>
          rw [List.flatMap_cons, List.append_assoc]
          exact .cons (h.refreshed hp (hs _ (by simp)) bare' _)
            (ih hr fun part hm => hs part (by simp [hm]))

/-- A run over the parts of a document makes each of them what it makes of it alone. -/
theorem exists_of_refreshParts {number : Nat} {output : List Text}
    (h : (refreshParts sources number parts).result = .ok output) :
    ∃ parts', List.Forall₂ (Part.Refreshed sources) parts parts' ∧
      output.flatten = (parts'.flatMap Part.source).flatten ∧
      (refreshParts sources number parts).calls = parts.flatMap (Part.calls sources) := by
  induction parts generalizing number output with
  | nil =>
      cases h
      exact ⟨[], .nil, rfl, rfl⟩
  | cons part parts ih =>
      cases part with
      | copied line =>
          obtain ⟨below, hb, rfl⟩ := exists_of_map_eq_ok h
          obtain ⟨parts', hr, hout, hcalls⟩ := ih hb
          refine ⟨.copied line :: parts', .cons (.copied line) hr, ?_, ?_⟩
          · simp [Part.source, hout]
          · simpa [refreshParts, Outcome.after, Part.calls] using hcalls
      | broken line cause => cases h
      | directive line directive old =>
          simp only [refreshParts] at h ⊢
          split at h
          · cases h
          next block he =>
            obtain ⟨below, hb, rfl⟩ := exists_of_map_eq_ok h
            obtain ⟨parts', hr, hout, hcalls⟩ := ih hb
            refine ⟨_ :: parts', .cons (.directive he old) hr, ?_, ?_⟩
            · simp [Part.source, hout]
            · simp [Outcome.after, Part.calls, hcalls]

theorem exists_refreshParts (number : Nat) (hr : List.Forall₂ (Part.Refreshed sources) parts parts') :
    ∃ output, refreshParts sources number parts =
      ⟨parts.flatMap (Part.calls sources), .ok output⟩ := by
  induction hr generalizing number with
  | nil => exact ⟨[], rfl⟩
  | cons hp _ ih =>
      cases hp with
      | copied line =>
          obtain ⟨below, hb⟩ := ih (number + 1)
          exact ⟨line :: below, by simp [refreshParts, hb, Outcome.after, Part.calls, Except.map]⟩
      | directive he old =>
          obtain ⟨below, hb⟩ := ih (number + 1 + old.length)
          exact ⟨_, by simp only [refreshParts, he, hb, Outcome.after, Except.map]; rfl⟩

theorem exists_refreshed_of_refreshed (hr : List.Forall₂ (Part.Refreshed sources) parts parts') :
    ∃ parts'', List.Forall₂ (Part.Refreshed sources) parts' parts'' := by
  induction hr with
  | nil => exact ⟨[], .nil⟩
  | cons hp _ ih =>
      obtain ⟨parts'', ih⟩ := ih
      cases hp with
      | copied line => exact ⟨_, .cons (.copied line) ih⟩
      | directive he old =>
          obtain ⟨block', he'⟩ := Sources.exists_embed_of_embed he _
          exact ⟨_, .cons (.directive he' _) ih⟩

/-- A run over parts that succeed goes on with the parts behind them. -/
theorem refreshParts_append {number : Nat} {output : List Text}
    (h : (refreshParts sources number parts).result = .ok output) (below : List Part) :
    refreshParts sources number (parts ++ below) =
      (refreshParts sources (number + (parts.flatMap Part.source).length) below).after
        (refreshParts sources number parts).calls (output ++ ·) := by
  induction parts generalizing number output with
  | nil =>
      cases h
      exact (Outcome.after_nil _).symm
  | cons part parts ih =>
      rw [List.flatMap_cons, List.length_append]
      cases part with
      | copied line =>
          obtain ⟨output, hb, rfl⟩ := exists_of_map_eq_ok h
          simp only [List.cons_append, refreshParts, ih hb, Outcome.after_after, Part.source,
            List.length_singleton, Nat.add_assoc]
          rfl
      | broken line cause => cases h
      | directive line d old =>
          simp only [refreshParts] at h
          split at h
          · cases h
          next block he =>
            obtain ⟨output, hb, rfl⟩ := exists_of_map_eq_ok h
            have hlen : number + 1 + old.length + (parts.flatMap Part.source).length =
                number + ((line :: old).length + (parts.flatMap Part.source).length) := by
              rw [List.length_cons]
              omega
            simp only [List.cons_append, refreshParts, he, ih hb, Outcome.after_after, Part.source, hlen]
            simp [Outcome.after, Function.comp_def]

/-- What fails behind parts that are refreshed fails there alone. -/
theorem refreshParts_append_eq_error_iff {failure : Failure} (number : Nat)
    (hr : List.Forall₂ (Part.Refreshed sources) parts parts') (below : List Part) :
    (refreshParts sources number (parts ++ below)).result = .error failure ↔
      (refreshParts sources (number + (parts.flatMap Part.source).length) below).result =
        .error failure := by
  obtain ⟨output, h⟩ := exists_refreshParts number hr
  rw [refreshParts_append (by rw [h])]
  exact map_eq_error_iff

/-- A run fails at the line that it starts with or at a later one. -/
theorem exists_le_of_refreshParts_eq_error {number : Nat} {failure : Failure}
    (h : (refreshParts sources number parts).result = .error failure) :
    ∃ line, failure.lines.head? = some line ∧ number ≤ line := by
  induction parts generalizing number with
  | nil => cases h
  | cons part parts ih =>
      cases part with
      | copied line =>
          obtain ⟨m, hm, hle⟩ := ih (map_eq_error_iff.mp h)
          exact ⟨m, hm, Nat.le_of_succ_le hle⟩
      | broken line cause =>
          cases h
          exact ⟨number, rfl, Nat.le_refl number⟩
      | directive line directive old =>
          simp only [refreshParts] at h
          split at h
          · cases h
            exact ⟨number, rfl, Nat.le_refl number⟩
          · obtain ⟨m, hm, hle⟩ := ih (map_eq_error_iff.mp h)
            exact ⟨m, hm, by omega⟩

/-- A run over parts depends on the contents of their references alone. -/
theorem refreshParts_congr {sources' : Sources} (hl : sources'.languages = sources.languages)
    (hc : ∀ line d old, Part.directive line d old ∈ parts →
      sources'.content d.reference = sources.content d.reference) (number : Nat) :
    (refreshParts sources' number parts).result = (refreshParts sources number parts).result := by
  induction parts generalizing number with
  | nil => rfl
  | cons part parts ih =>
      have ih := ih fun line d old hm => hc line d old (List.mem_cons_of_mem _ hm)
      cases part with
      | copied line => simp only [refreshParts, Outcome.after, ih]
      | broken line cause => rfl
      | directive line d old =>
          simp only [refreshParts, Sources.embed_congr hl (hc line d old List.mem_cons_self)]
          split
          · rfl
          · simp only [Outcome.after, ih]

theorem mem_references_iff {document reference : Text} :
    reference ∈ references bare document ↔
      ∃ line d old, Part.directive line d old ∈ Document.parts bare document ∧
        d.reference = reference := by
  simp only [references, List.mem_filterMap]
  constructor
  · rintro ⟨part, hm, he⟩
    cases part with
    | directive line d old => exact ⟨line, d, old, hm, Option.some.inj he⟩
    | copied line | broken line cause => cases he
  · rintro ⟨line, d, old, hm, rfl⟩
    exact ⟨_, hm, rfl⟩

/-- A run over a document depends on the contents of its references alone. -/
theorem refresh_congr {fetch fetch' : Fetcher} {base base' document : Text} {options : Options}
    (h : ∀ reference ∈ references options.bareFences document,
      fetch' base' reference = fetch base reference) :
    (refresh fetch' base' options document).result = (refresh fetch base options document).result := by
  have hparts : (refreshParts ⟨fetch', base', options.languages⟩ 1
        (Document.parts options.bareFences document)).result =
      (refreshParts ⟨fetch, base, options.languages⟩ 1
        (Document.parts options.bareFences document)).result := by
    refine refreshParts_congr ?_ (fun line d old hm => ?_) 1
    · rfl
    simp only [Sources.content, h d.reference (mem_references_iff.mpr ⟨line, d, old, hm, rfl⟩)]
  simp only [refresh, Outcome.after, hparts]

theorem isBroken_eq_false_of_refreshed (hr : List.Forall₂ (Part.Refreshed sources) parts parts') :
    ∀ part ∈ parts, part.isBroken = false := by
  induction hr with
  | nil => simp
  | cons hp _ ih =>
      intro part hm
      rcases List.mem_cons.mp hm with rfl | hm
      · cases hp <;> rfl
      · exact ih part hm

theorem lined_of_refreshed (hr : List.Forall₂ (Part.Refreshed sources) parts parts')
    (hl : Text.Lined (parts.flatMap Part.source)) : Text.Lined (parts'.flatMap Part.source) := by
  induction hr with
  | nil => exact hl
  | @cons part part' parts parts' hp hr ih =>
      rw [List.flatMap_cons] at hl ⊢
      cases hp with
      | copied line =>
          cases parts with
          | nil =>
              cases hr
              exact hl
          | cons next parts =>
              have hne : (next :: parts).flatMap Part.source ≠ [] := by
                cases next <;> simp [Part.source]
              exact .cons (hl.head_isFull hne) (ih hl.tail)
      | @directive line _ block he old =>
          have heol := Text.isEol_lineEnding line
          refine .cons ((hl.isLine line (by simp [Part.source])).completeLine heol) ?_
          exact .append (Sources.isFull_of_embed heol he) (ih hl.of_append)

/-- A run that succeeds makes each part of the document what it makes of it alone, and the lines of the
output are those of these parts. -/
theorem exists_of_refresh {fetch : Fetcher} {base : Text} {options : Options} {document output : Text}
    (h : (refresh fetch base options document).result = .ok output) :
    ∃ fence parts',
      Reads options.bareFences none (Text.lines document) (Document.parts options.bareFences document)
        fence [] ∧
      List.Forall₂ (Part.Refreshed ⟨fetch, base, options.languages⟩)
        (Document.parts options.bareFences document) parts' ∧
      Text.lines output = parts'.flatMap Part.source ∧
      (refresh fetch base options document).calls =
        (Document.parts options.bareFences document).flatMap
          (Part.calls ⟨fetch, base, options.languages⟩) := by
  obtain ⟨written, hw, rfl⟩ := exists_of_map_eq_ok h
  obtain ⟨parts', hr, hout, hcalls⟩ := exists_of_refreshParts hw
  obtain ⟨fence, hreads⟩ := exists_reads (isBroken_eq_false_of_refreshed hr)
  refine ⟨fence, parts', hreads, hr, ?_, hcalls⟩
  have hlined : Text.Lined ((Document.parts options.bareFences document).flatMap Part.source) :=
    hreads.flatMap_source ▸ Text.lined_lines document
  rw [hout, Text.lines_flatten (lined_of_refreshed hr hlined)]

/-- The output of a run is read into the refreshed parts. -/
theorem exists_parts_of_refresh {fetch : Fetcher} {base : Text} {options : Options}
    {document output : Text} (h : (refresh fetch base options document).result = .ok output)
    (hs : ∀ part ∈ Document.parts options.bareFences document, part.Skippable options.languages)
    (bare : Bool) :
    List.Forall₂ (Part.Refreshed ⟨fetch, base, options.languages⟩)
      (Document.parts options.bareFences document) (Document.parts bare output) := by
  obtain ⟨fence, parts', hreads, hr, hlines, -⟩ := exists_of_refresh h
  have hagain := hreads.refreshed hr hs bare []
  rw [List.append_nil, ← hlines] at hagain
  have hparts : Document.parts bare output = parts' := hagain.partsFrom_eq_of_nil
  exact hparts ▸ hr

end Document

end Transclude
