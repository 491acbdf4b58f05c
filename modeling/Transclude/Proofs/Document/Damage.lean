import Transclude.Proofs.Document.Run

/-!
# Blocks that have lost their end

When the line that ends a block is deleted from an output, the next reader looks for another below the
block. If there is none, the document is refused at the line of the directive; else the reader takes
the first one for the end of the block, and the lines above it go with the block
(`refresh_without_end`). So a block without its end is refused where no block follows, and eaten into
where one does.
-/

namespace Transclude.Document

/-! ## Deleting a line -/

/-- The document without its line number `index`, counted from zero. -/
def eraseLine (index : Nat) (document : Text) : Text := ((Text.lines document).eraseIdx index).flatten

theorem lines_eraseLine {document ended : Text} {before later : List Text}
    (h : Text.lines document = before ++ ended :: later) :
    Text.lines (eraseLine before.length document) = before ++ later := by
  have hl : Text.Lined (before ++ ended :: later) := h ▸ Text.lined_lines document
  have hlined : Text.Lined (before ++ later) :=
    .append (hl.isFull_of_ne_nil (by simp)) hl.of_append.tail
  rw [eraseLine, h, List.eraseIdx_append_of_length_le (Nat.le_refl _), Nat.sub_self,
    List.eraseIdx_cons_zero, Text.lines_flatten hlined]

/-! ## Reading on behind a block without an end -/

variable {sources : Sources} {bare : Bool} {fence fence' : Option Fence} {lines lines' : List Text}
  {part : Part} {parts parts' above : List Part} {line : Text} {directive : Directive}
  {block front later : List Text}

theorem skippable_of_refreshed {languages : Languages}
    (hr : List.Forall₂ (Part.Refreshed sources) parts parts')
    (hs : ∀ part ∈ parts', part.Skippable languages) : ∀ part ∈ parts, part.Skippable languages := by
  induction hr with
  | nil => simp
  | cons hp _ ih =>
      intro part hm
      rcases List.mem_cons.mp hm with rfl | hm
      · have h := hs _ List.mem_cons_self
        cases hp with
        | copied line => exact trivial
        | directive he old => exact h
      · exact ih (fun part hm => hs part (List.mem_cons_of_mem _ hm)) part hm

theorem Step.exists_of_refreshed (h : Step bare fence lines part fence' lines')
    (hr : Part.Refreshed sources part (.directive line directive block)) :
    fence = none ∧ Directive.ofLine line = .ok (some directive) ∧
      ∃ eol written, Text.IsEol eol ∧ sources.embed directive eol = .ok written ∧
        block = Text.lines written.flatten := by
  cases hr with
  | @directive line _ written he old =>
      cases h with
      | directive hd hb =>
          have heol := Text.isEol_lineEnding line
          exact ⟨rfl, by rw [Directive.ignoresEnding_ofLine.completeLine heol, hd], _, written, heol, he, rfl⟩

theorem partsFrom_of_throughFirst? (hd : Directive.ofLine line = .ok (some directive))
    (hsplit : ∀ below, Block.split bare (front ++ below) =
      (Block.splitEnd below).map fun parts => (front ++ parts.1, parts.2))
    {taken rest : List Text} (h : throughFirst? Block.isEnd later = some (taken, rest)) :
    partsFrom bare none (line :: (front ++ later)) =
      .directive line directive (front ++ taken) :: partsFrom bare none rest := by
  have hstep : Step bare none (line :: (front ++ later)) (.directive line directive (front ++ taken))
      none rest := .directive hd (by rw [hsplit, Block.splitEnd, h]; rfl)
  exact hstep.partsFrom_eq

/-- A directive behind refreshed parts of which the block has lost its end is refused at its line if and
only if no end of a block follows. -/
theorem refreshParts_without_end (number : Nat) {above' : List Part}
    (habove : List.Forall₂ (Part.Refreshed sources) above above')
    (hd : Directive.ofLine line = .ok (some directive))
    (hembed : ∃ written, sources.embed directive (Text.lineEnding line) = .ok written)
    (hsplit : ∀ below, Block.split bare (front ++ below) =
      (Block.splitEnd below).map fun parts => (front ++ parts.1, parts.2)) :
    (refreshParts sources number
        (above ++ partsFrom bare none (line :: (front ++ later)))).result =
      .error ⟨[number + (above.flatMap Part.source).length], .unterminated Block.endMark⟩ ↔
      ∀ l ∈ later, Block.isEnd l = false := by
  rw [refreshParts_append_eq_error_iff number habove, ← throughFirst?_eq_none_iff]
  cases h : throughFirst? Block.isEnd later with
  | none =>
      have hb : Block.split bare (front ++ later) = .error (.unterminated Block.endMark) := by
        rw [hsplit, Block.splitEnd, h]
        rfl
      rw [partsFrom_of_split_error hd hb]
      exact iff_of_true rfl rfl
  | some parts =>
      obtain ⟨taken, rest⟩ := parts
      obtain ⟨written, hw⟩ := hembed
      refine iff_of_false (fun herror => ?_) (by simp)
      rw [partsFrom_of_throughFirst? hd hsplit h] at herror
      simp only [refreshParts, hw] at herror
      obtain ⟨m, hm, hle⟩ := exists_le_of_refreshParts_eq_error (map_eq_error_iff.mp herror)
      obtain rfl := Option.some.inj hm
      omega

theorem skippable_of_fenced {command language : Text} (hd : Directive.ofLine line = .ok (some directive))
    (hc : Directive.commandOf? line = some command)
    (hq : Directive.quotesReference command = false) (hg : ¬ Block.guardedEnd <:+: command)
    (hl : Languages.resolve {} directive = .ok language) (hne : language ≠ unfencedLanguage)
    (hb : '\x60' ∉ language) :
    ∀ language, Languages.resolve {} directive = .ok language →
      Block.Skippable directive language := by
  intro language' hl'
  obtain rfl := Except.ok.inj (hl.symm.trans hl')
  obtain ⟨command', hc', hcommand⟩ := Directive.exists_of_ofLine hd
  obtain rfl := Option.some.inj (hc.symm.trans hc')
  have hreadable := (Directive.isReadable_of_ofCommand hcommand hq).1
  have hguarded := Block.not_guardedEnd_infix_text hcommand hq hg
  refine (Block.skippable_iff hreadable hguarded hl).mpr ⟨fun h => hne h.2, fun _ => ⟨hb, ?_⟩⟩
  exact Languages.newline_not_mem_of_resolve hreadable.newline_not_mem_text hl

/-- The output of a run holds the block of each of its directives, and the line that ends the block below
it. If this line is deleted, a second run refuses the document at the line of the directive if and only if
no other line behind ends a block; the first that does is taken for the deleted one. -/
theorem refresh_without_end {fetch : Fetcher} {base document output : Text}
    (h : (refresh fetch base {} document).result = .ok output) :
    ∃ parts, List.Forall₂ (Part.Refreshed ⟨fetch, base, {}⟩) (Document.parts false document) parts ∧
      Text.lines output = parts.flatMap Part.source ∧
      ∀ above line directive block below, parts = above ++ .directive line directive block :: below →
        (∀ part ∈ above, part.Skippable {}) →
        ∀ command language, Directive.commandOf? line = some command →
          Directive.quotesReference command = false → ¬ Block.guardedEnd <:+: command →
          Languages.resolve {} directive = .ok language → language ≠ unfencedLanguage →
          '\x60' ∉ language →
          let number := (above.flatMap Part.source).length
          let later := below.flatMap Part.source
          let damaged := eraseLine (number + block.length) output
          (∃ ended, (Text.lines output)[number + block.length]? = some ended ∧
              Block.isEnd ended = true) ∧
            ((refresh fetch base {} damaged).result =
                .error ⟨[number + 1], .unterminated Block.endMark⟩ ↔
              ∀ l ∈ later, Block.isEnd l = false) ∧
            ∀ taken rest, throughFirst? Block.isEnd later = some (taken, rest) →
              Document.parts false damaged = above ++
                .directive line directive (block.dropLast ++ taken) :: partsFrom false none rest := by
  obtain ⟨fence, parts, hreads, hr, hlines, -⟩ := exists_of_refresh h
  refine ⟨parts, hr, hlines, ?_⟩
  rintro above line directive block below rfl habove command language hc hq hg hl hne hb number later
    damaged
  have hbefore := List.forall₂_take_append _ _ _ hr
  obtain ⟨origin, after, horigin, -, hdrop⟩ :=
    List.forall₂_cons_right_iff.mp (List.forall₂_drop_append _ _ _ hr)
  rw [← List.take_append_drop above.length (Document.parts _ document), hdrop] at hreads
  obtain ⟨fence', lines', hreadsAbove, hreadsBelow⟩ := hreads.of_append
  cases hreadsBelow with
  | cons hstep _ =>
      obtain ⟨rfl, hd, eol, written, heol, hembed, rfl⟩ := hstep.exists_of_refreshed horigin
      have hskip := skippable_of_fenced hd hc hq hg hl hne hb
      obtain ⟨front, hblock, hsplit⟩ :=
        Sources.exists_front_of_embed (Directive.reference_ne_nil_of_ofLine hd) heol hembed hskip
      have hread : ∀ tail, partsFrom false none (above.flatMap Part.source ++ tail) =
          above ++ partsFrom false none tail := fun tail =>
        (hreadsAbove.refreshed hbefore (skippable_of_refreshed hbefore habove) false tail).partsFrom_eq
      have hout : Text.lines output = (above.flatMap Part.source ++ line :: front) ++
          (Block.endMark ++ eol) :: later := by
        rw [hlines, List.flatMap_append, List.flatMap_cons, hblock]
        simp [Part.source, later]
      have hindex : number + (Text.lines written.flatten).length =
          (above.flatMap Part.source ++ line :: front).length := by
        simp [hblock, number]
      -- What is left of the block is read on behind the parts above, as no line there has changed.
      have hdamaged : Document.parts false damaged =
          above ++ partsFrom false none (line :: (front ++ later)) := by
        have hlinesDamaged := lines_eraseLine hout
        rw [← hindex, List.append_assoc] at hlinesDamaged
        rw [Document.parts, hlinesDamaged]
        exact hread _
      refine ⟨⟨Block.endMark ++ eol, ?_, Block.isEnd_endMark heol⟩, ?_, ?_⟩
      · rw [hindex, hout, List.getElem?_append_right (Nat.le_refl _), Nat.sub_self]
        rfl
      · obtain ⟨above', hagain⟩ := exists_refreshed_of_refreshed hbefore
        have hembed' := Sources.exists_embed_of_embed hembed (Text.lineEnding line)
        rw [refresh, hdamaged, Outcome.after, map_eq_error_iff, Nat.add_comm number 1]
        exact refreshParts_without_end 1 hagain hd hembed' (hsplit false)
      · intro taken rest hend
        rw [hdamaged, hblock, List.dropLast_concat, partsFrom_of_throughFirst? hd (hsplit false) hend]

theorem refresh_without_end_last :
    let fetch : Fetcher := fun _ _ => .ok (Text.encode (Text.ofLines ["x"]))
    let document := Text.ofLines ["[embedmd]:# (a.go)", "[embedmd]:# (b.txt)", "hand"]
    let output := Text.ofLines ["[embedmd]:# (a.go)", "<!-- embedmd:begin (a.go) -->", "```go", "x",
      "```", "<!-- embedmd:end -->", "[embedmd]:# (b.txt)", "<!-- embedmd:begin (b.txt) -->",
      "```txt", "x", "```", "<!-- embedmd:end -->", "hand"]
    (refresh fetch [] {} document).result = .ok output ∧
      (refresh fetch [] {} (eraseLine 11 output)).result =
        .error ⟨[7], .unterminated Block.endMark⟩ := by
  intro fetch document output
  have h : (refresh fetch [] {} document).result = .ok output := by decide +kernel
  let above : Part := .directive (Text.ofLines ["[embedmd]:# (a.go)"]) ⟨"a.go".toList, none, .whole⟩
    (Text.lines (Text.ofLines ["<!-- embedmd:begin (a.go) -->", "```go", "x", "```",
      "<!-- embedmd:end -->"]))
  let line := Text.ofLines ["[embedmd]:# (b.txt)"]
  let directive : Directive := ⟨"b.txt".toList, none, .whole⟩
  let block := Text.lines (Text.ofLines ["<!-- embedmd:begin (b.txt) -->", "```txt", "x", "```",
    "<!-- embedmd:end -->"])
  let below : Part := .copied (Text.ofLines ["hand"])
  have hr : List.Forall₂ (Part.Refreshed ⟨fetch, [], {}⟩) (Document.parts false document)
      ([above] ++ .directive line directive block :: [below]) := by decide +kernel
  have hc : Directive.commandOf? line = some " (b.txt)".toList := by decide +kernel
  have hl : Languages.resolve {} directive = .ok "txt".toList := by decide +kernel
  obtain ⟨parts, hr', -, hall⟩ := refresh_without_end h
  obtain rfl := (Part.rightUnique_refreshed _).forall₂ hr hr'
  obtain ⟨-, hrefused, -⟩ := hall _ _ _ _ _ rfl (by decide +kernel) _ _ hc (by decide +kernel)
    (by decide +kernel) hl (by decide +kernel) (by decide +kernel)
  exact ⟨h, hrefused.mpr (by decide +kernel)⟩

/-- Not every block without its end is refused at its own line: the end of a later block is taken for the
missing one, so is one in the snippet if the written directive cannot be read, and a block above may be
refused instead. -/
theorem eraseLine_not_refused :
    (let fetch : Fetcher := fun _ _ => .ok (Text.encode (Text.ofLines ["x"]))
     let output := Text.ofLines ["[embedmd]:# (a.go)", "<!-- embedmd:begin (a.go) -->", "```go", "x",
       "```", "<!-- embedmd:end -->", "hand", "[embedmd]:# (b.go)", "<!-- embedmd:begin (b.go) -->",
       "```go", "x", "```", "<!-- embedmd:end -->"]
     let document := Text.ofLines ["[embedmd]:# (a.go)", "hand", "[embedmd]:# (b.go)"]
     (refresh fetch [] {} document).result = .ok output ∧
       (Text.lines output)[5]? = some (Block.endMark ++ ['\n']) ∧
       (refresh fetch [] {} (eraseLine 5 output)).result =
         .ok (Text.ofLines ["[embedmd]:# (a.go)", "<!-- embedmd:begin (a.go) -->", "```go", "x", "```",
           "<!-- embedmd:end -->"])) ∧
    (let fetch : Fetcher := fun _ _ => .ok (Text.encode (Text.ofLines ["--", "<!-- embedmd:end -->"]))
     let document := Text.ofLines ["[embedmd]:# (x.txt go /--\\>\x7b0,1000\x7d\x7b0,1000\x7d/ $)"]
     let output := document ++ Text.ofLines [
       "<!-- embedmd:begin (x.txt go /--\\>\x7b0,1000\x7d\x7b0,1000\x7d/ $) -->", "```go", "--",
       "<!-- embedmd:end -->", "```", "<!-- embedmd:end -->"]
     (refresh fetch [] {} document).result = .ok output ∧
       (Text.lines output)[6]? = some (Block.endMark ++ ['\n']) ∧
       (refresh fetch [] {} (eraseLine 6 output)).result = .ok (output ++ Text.ofLines ["```"])) ∧
    let fetch : Fetcher := fun _ _ => .ok (Text.encode (Text.ofLines ["```"]))
    let output := Text.ofLines ["[embedmd]:# (a.none)", "<!-- embedmd:begin (a.none) -->", "```",
      "<!-- embedmd:end -->", "[embedmd]:# (b.go)", "<!-- embedmd:begin (b.go) -->", "````go", "```",
      "````", "<!-- embedmd:end -->"]
    (refresh fetch [] {} (Text.ofLines ["[embedmd]:# (a.none)", "[embedmd]:# (b.go)"])).result =
        .ok output ∧
      (Text.lines output)[9]? = some (Block.endMark ++ ['\n']) ∧
      (refresh fetch [] {} (eraseLine 9 output)).result =
        .error ⟨[1], .unterminated Block.endMark⟩ := by
  refine ⟨⟨?_, ?_, ?_⟩, ⟨?_, ?_, ?_⟩, ?_, ?_, ?_⟩ <;> decide +kernel

end Transclude.Document
