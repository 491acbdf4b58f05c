import Transclude.Proofs.Document.Run

/-!
# Calls of a second run

A run over the output of another, with the same source of contents, makes the same calls and succeeds,
if the blocks of all directives are skipped as a whole (`exists_refresh_output`). If those of a
directive are not, a content can be found for it that makes a second run fail or ask for something
else (`exists_refresh_output_ne`): a content that ends its block early and goes on with a directive of
its own, or one that opens a fence. For documents of one directive this gives the exact condition
(`calls_refresh_output`).
-/

namespace Transclude.Document

variable {bare : Bool} {parts parts' : List Part} {sources : Sources}

/-! ## The same calls -/

theorem flatMap_calls_of_refreshed (hr : List.Forall₂ (Part.Refreshed sources) parts parts') :
    parts'.flatMap (Part.calls sources) = parts.flatMap (Part.calls sources) := by
  induction hr with
  | nil => rfl
  | cons hp _ ih => cases hp <;> simp [Part.calls, ih]

/-- A second run succeeds and makes the calls of the first, whatever the contents are. -/
theorem exists_refresh_output {fetch : Fetcher} {base : Text} {options : Options}
    {document output : Text} (h : (refresh fetch base options document).result = .ok output)
    (hs : ∀ part ∈ Document.parts options.bareFences document, part.Skippable options.languages) :
    ∃ again, refresh fetch base options output =
      ⟨(refresh fetch base options document).calls, .ok again⟩ := by
  obtain ⟨_, _, -, -, -, hcalls⟩ := exists_of_refresh h
  have hr := exists_parts_of_refresh h hs options.bareFences
  obtain ⟨parts'', hagain⟩ := exists_refreshed_of_refreshed hr
  obtain ⟨written, hw⟩ := exists_refreshParts 1 hagain
  refine ⟨written.flatten, ?_⟩
  rw [hcalls, ← flatMap_calls_of_refreshed hr, refresh, hw]
  rfl

/-! ## Lines that ask for something -/

/-- A run over the lines makes a call, if it does not fail. -/
def Asks (fence : Option Fence) (lines : List Text) : Prop :=
  ∀ sources number written,
    (refreshParts sources number (partsFrom false fence lines)).result = .ok written →
    (refreshParts sources number (partsFrom false fence lines)).calls ≠ []

theorem asks_of_directive {line : Text} {directive : Directive}
    (hd : Directive.ofLine line = .ok (some directive)) (below : List Text) :
    Asks none (line :: below) := by
  intro sources number written h
  cases hsplit : Block.split false below with
  | error cause =>
      rw [partsFrom_of_split_error hd hsplit] at h
      cases h
  | ok parts =>
      have hstep : Step false none (line :: below) (.directive line directive parts.1) none parts.2 :=
        .directive hd hsplit
      rw [hstep.partsFrom_eq] at h ⊢
      cases he : sources.embed directive (Text.lineEnding line) with
      | error cause => simp [refreshParts, he] at h
      | ok block =>
          obtain ⟨language, _, hr, -⟩ := Sources.exists_of_embed he
          simp [refreshParts, he, Outcome.after, Sources.callsOf, hr]

theorem Step.asks_of_copied {fence fence' : Option Fence} {lines lines' : List Text} {line : Text}
    (h : Step false fence lines (.copied line) fence' lines') (ha : Asks fence' lines') :
    Asks fence lines := by
  intro sources number written hw
  rw [h.partsFrom_eq] at hw ⊢
  obtain ⟨below, hb, -⟩ := exists_of_map_eq_ok hw
  exact ha sources (number + 1) below hb

/-- A line with a directive that a content may hold. -/
def injectedLine : Text := "[embedmd]:# (x go)\n".toList

theorem ofLine_injectedLine :
    Directive.ofLine injectedLine = .ok (some ⟨['x'], some ['g', 'o'], .whole⟩) := by decide +kernel

/-- Whatever lines stand before, a directive behind them can be made to be read as one: it may take a
line that closes the fence that they leave open. -/
theorem exists_closing {fence : Option Fence}
    (hm : ∀ f, fence = some f → f.marker = '\x60' ∨ f.marker = '~') (lines : List Text) :
    ∃ closing, (∀ line ∈ closing, Text.IsFull line) ∧
      ∀ below, Asks fence (lines ++ closing ++ injectedLine :: below) := by
  -- The fence is what the lines so far leave open; at the first directive nothing has to be closed.
  induction lines generalizing fence with
  | nil =>
      cases fence with
      | none => exact ⟨[], by simp, fun below => asks_of_directive ofLine_injectedLine below⟩
      | some fence =>
          have hmarker := hm fence rfl
          have hmarks : '\n' ∉ fence.marks := by
            rcases hmarker with h | h <;> simp [Fence.marks, h]
          have hafter : fenceAfter fence (fence.marks ++ ['\n']) = none :=
            if_pos (Fence.closes_marks hmarker (Or.inl rfl))
          refine ⟨[fence.marks ++ ['\n']], ?_, fun below => ?_⟩
          · intro line h
            obtain rfl := List.mem_singleton.mp h
            exact Text.IsFull.append_eol hmarks (Or.inl rfl)
          · refine (Step.inside fence (fence.marks ++ ['\n']) _).asks_of_copied ?_
            rw [hafter]
            exact asks_of_directive ofLine_injectedLine below
  | cons line lines ih =>
      cases fence with
      | some fence =>
          have hm' : ∀ f, fenceAfter fence line = some f → f.marker = '\x60' ∨ f.marker = '~' := by
            intro f h
            unfold fenceAfter at h
            split at h
            · cases h
            · exact hm f h
          obtain ⟨closing, hfull, ha⟩ := ih hm'
          exact ⟨closing, hfull, fun below => (Step.inside fence line _).asks_of_copied (ha below)⟩
      | none =>
          cases hf : Fence.ofLine? line with
          | some fence =>
              have hm' : ∀ f, some fence = some f → f.marker = '\x60' ∨ f.marker = '~' := by
                intro f h
                obtain rfl := Option.some.inj h
                obtain ⟨_, -, hmarker⟩ := Fence.exists_of_ofLine? hf
                exact hmarker
              obtain ⟨closing, hfull, ha⟩ := ih hm'
              exact ⟨closing, hfull, fun below => (Step.opens hf _).asks_of_copied (ha below)⟩
          | none =>
              cases hd : Directive.ofLine line with
              | error fault =>
                  refine ⟨[], by simp, fun below sources number written h => ?_⟩
                  rw [List.append_nil, List.cons_append, partsFrom] at h
                  simp [hf, hd, refreshParts] at h
              | ok directive =>
                  cases directive with
                  | none =>
                      obtain ⟨closing, hfull, ha⟩ := ih hm
                      exact ⟨closing, hfull, fun below => (Step.plain hf hd _).asks_of_copied (ha below)⟩
                  | some directive => exact ⟨[], by simp, fun below => asks_of_directive hd _⟩

/-! ## Documents of one directive -/

section Single

variable {fetch : Fetcher} {base document output line language : Text} {directive : Directive}
  {lines block : List Text}

theorem parts_of_ofLine (hlines : Text.lines document = [line])
    (hd : Directive.ofLine line = .ok (some directive)) :
    Document.parts false document = [.directive line directive []] := by
  have hstep : Step false none [line] (.directive line directive []) none [] := .directive hd rfl
  rw [Document.parts, hlines, hstep.partsFrom_eq, partsFrom_nil]

theorem exists_output_of_embed (hlines : Text.lines document = [line])
    (hd : Directive.ofLine line = .ok (some directive))
    (he : Sources.embed ⟨fetch, base, {}⟩ directive (Text.lineEnding line) = .ok block) :
    ∃ output, (refresh fetch base {} document).result = .ok output ∧
      (refresh fetch base {} document).calls = Sources.callsOf ⟨fetch, base, {}⟩ directive ∧
      Text.lines output =
        Text.completeLine (Text.lineEnding line) line :: Text.lines block.flatten := by
  have hparts := parts_of_ofLine hlines hd
  have hone : List.Forall₂ (Part.Refreshed ⟨fetch, base, {}⟩) [.directive line directive []] _ :=
    .cons (.directive he []) .nil
  obtain ⟨written, hw⟩ := exists_refreshParts 1 hone
  have h : (refresh fetch base {} document).result = .ok written.flatten := by
    rw [refresh, hparts, hw]
    rfl
  obtain ⟨_, parts', -, hr, hout, hcalls⟩ := exists_of_refresh h
  refine ⟨written.flatten, h, ?_, ?_⟩
  · rw [hcalls, hparts]
    simp [Part.calls]
  · rw [hparts] at hr
    obtain rfl := (Part.rightUnique_refreshed _).forall₂ hr hone
    simpa [Part.source] using hout

/-- A source of contents that gives the same content for every reference. -/
def always (lines : List Text) : Fetcher := fun _ _ => .ok (Text.encode lines.flatten)

theorem exists_output_of_whole (base : Text) (hlines : Text.lines document = [line])
    (hd : Directive.ofLine line = .ok (some directive)) (hsel : directive.selection = .whole)
    (hr : Languages.resolve {} directive = .ok language) (hl : Text.lines lines.flatten = lines)
    (hends : language = unfencedLanguage → ∀ line ∈ lines, Block.isEnd line = false) :
    ∃ output, (refresh (always lines) base {} document).result = .ok output ∧
      (refresh (always lines) base {} document).calls =
        Sources.callsOf ⟨always lines, base, {}⟩ directive ∧
      Text.lines output = Text.completeLine (Text.lineEnding line) line ::
        Text.lines (Block.beginLine directive (Text.lineEnding line) ::
          Block.body ⟨lines, language⟩ (Text.lineEnding line) ++
            [Block.endMark ++ Text.lineEnding line]).flatten := by
  have hc : Sources.content ⟨always lines, base, {}⟩ directive.reference = .ok lines.flatten := by
    simp [Sources.content, always, Text.decode?_encode]
  have he := Sources.embed_of_whole (Text.lineEnding line) hsel hr hc (hl.symm ▸ hends)
  rw [hl] at he
  exact exists_output_of_embed hlines hd he

/-- A run over a line with a directive and a block makes other calls than that of the directive or
fails, if what the reader of the block leaves of it asks for something. -/
theorem refresh_ne_of_split (hd : Directive.ofLine line = .ok (some directive))
    (hout : Text.lines output = line :: block)
    (hasks : ∀ taken left, Block.split false block = .ok (taken, left) → Asks none left)
    (again : Text) :
    refresh fetch base {} output ≠ ⟨Sources.callsOf ⟨fetch, base, {}⟩ directive, .ok again⟩ := by
  intro hagain
  cases hsplit : Block.split false block with
  | error cause =>
      rw [refresh, Document.parts, hout, partsFrom_of_split_error hd hsplit] at hagain
      cases congrArg Outcome.result hagain
  | ok parts =>
      have hstep : Step false none (line :: block) (.directive line directive parts.1) none parts.2 :=
        .directive hd hsplit
      rw [refresh, Document.parts, hout, hstep.partsFrom_eq] at hagain
      have hresult := congrArg Outcome.result hagain
      have hcalls := congrArg Outcome.calls hagain
      cases he : Sources.embed ⟨fetch, base, {}⟩ directive (Text.lineEnding line) with
      | error cause =>
          simp only [refreshParts, he, Outcome.after] at hresult
          cases hresult
      | ok block' =>
          simp only [refreshParts, he, Outcome.after] at hresult hcalls
          obtain ⟨written, hwritten, -⟩ := exists_of_map_eq_ok hresult
          obtain ⟨below, hbelow, -⟩ := exists_of_map_eq_ok hwritten
          exact hasks _ _ hsplit _ _ _ hbelow (by simpa using hcalls)

end Single

/-! ## Contents that become instructions -/

/-- The lines of a content that ends a block and goes on with a directive, behind lines that close what
is open there. -/
def injectedLines (closing : List Text) : List Text :=
  (Block.endMark ++ ['\n']) :: closing ++ [injectedLine]

theorem exists_splitEnd (lines : List Text) :
    ∃ left, ∀ below, ∃ taken,
      Block.splitEnd (lines ++ (Block.endMark ++ ['\n']) :: below) = .ok (taken, left ++ below) := by
  induction lines with
  | nil => exact ⟨[], fun below => ⟨_, Block.splitEnd_endMark (Or.inl rfl) below⟩⟩
  | cons line lines ih =>
      cases hend : Block.isEnd line with
      | true =>
          refine ⟨lines ++ [Block.endMark ++ ['\n']], fun below => ⟨[line], ?_⟩⟩
          rw [List.cons_append, Block.splitEnd, throughFirst?_cons hend, List.append_cons]
      | false =>
          obtain ⟨left, hleft⟩ := ih
          refine ⟨left, fun below => ?_⟩
          obtain ⟨taken, htaken⟩ := hleft below
          have hbefore : ∀ l ∈ [line], Block.isEnd l = false := by simpa using hend
          refine ⟨line :: taken, ?_⟩
          rw [List.cons_append, ← List.singleton_append, Block.splitEnd_append hbefore, htaken]
          rfl

section Injected

variable {directive : Directive} {language eol : Text}

theorem lines_flatten_fenced (he : Text.IsEol eol) (hl : language ≠ unfencedLanguage)
    {lines : List Text} (hlines : ∀ line ∈ lines, Text.IsFull line) :
    Text.lines (Block.beginLine directive eol :: Block.body ⟨lines, language⟩ eol ++
        [Block.endMark ++ eol]).flatten =
      Text.lines (Block.beginLine directive eol) ++
        (Text.lines ((Fence.around lines).marks ++ language ++ eol) ++
          (lines ++ [(Fence.around lines).marks ++ eol, Block.endMark ++ eol])) := by
  have hbegin : Text.endsLine (Block.beginLine directive eol) = true :=
    Block.beginLine_eq directive eol ▸ he.endsLine_append _
  have hcomplete : lines.map (Text.completeLine eol) = lines :=
    (List.map_congr_left fun line hm => Text.completeLine_of_isFull (hlines line hm)).trans
      (List.map_id _)
  have hlined : Text.Lined (lines ++ [(Fence.around lines).marks ++ eol, Block.endMark ++ eol]) := by
    have hclose := Text.IsFull.append_eol (Fence.newline_not_mem_marks_around lines) he
    have hend : Text.IsFull (Block.endMark ++ eol) := Text.IsFull.append_eol (by decide) he
    exact .append hlines (.cons hclose (.cons hend .nil))
  rw [Block.body_of_fenced hl, hcomplete]
  simp only [List.cons_append, List.append_assoc, List.nil_append]
  rw [List.flatten_cons, Text.lines_append_of_endsLine hbegin, List.flatten_cons,
    ← List.append_assoc, Text.lines_append_of_endsLine (he.endsLine_append _), Text.lines_flatten hlined]

/-- What the reader leaves of a block if it skips no fence asks for something. -/
theorem asks_of_splitFenceOf {first opening : Text}
    {extra later closing below lines taken left left' : List Text}
    (hlines : lines = extra ++ (opening :: later ++ (injectedLines closing ++ below)))
    (hbegin : Block.isBegin first = true) (hextra : ∀ line ∈ extra, Block.isEnd line = false)
    (hopening : Block.isEnd opening = false)
    (hleft : ∀ below, ∃ taken, Block.splitEnd (later ++ (Block.endMark ++ ['\n']) :: below) =
      .ok (taken, left ++ below))
    (hasks : ∀ below, Asks none (left ++ closing ++ injectedLine :: below))
    (hf : Block.splitFenceOf first lines = .ok ([], lines))
    (hsplit : Block.split false (first :: lines) = .ok (taken, left')) : Asks none left' := by
  have hbefore : ∀ line ∈ extra ++ [opening], Block.isEnd line = false := by
    intro line hm
    rcases List.mem_append.mp hm with hm | hm
    · exact hextra line hm
    · exact List.mem_singleton.mp hm ▸ hopening
  have hlines' : lines = (extra ++ [opening]) ++
      (later ++ (Block.endMark ++ ['\n']) :: (closing ++ injectedLine :: below)) := by
    simp [hlines, injectedLines]
  obtain ⟨taken', hend⟩ := hleft (closing ++ injectedLine :: below)
  simp only [Block.split, hbegin, if_true, Block.splitMarked, hf] at hsplit
  split at hsplit
  · cases hsplit
  rw [hlines', Block.splitEnd_append hbefore, hend] at hsplit
  obtain ⟨-, rfl⟩ := Prod.mk.inj (Except.ok.inj hsplit)
  rw [← List.append_assoc]
  exact hasks below

theorem exists_lines_opening (he : Text.IsEol eol) (language : Text) :
    ∃ head later, ('\n' ∉ language → later = []) ∧ ∀ lines,
      Text.lines ((Fence.around lines).marks ++ language ++ eol) =
        ((Fence.around lines).marks ++ head) :: later := by
  by_cases hn : '\n' ∈ language
  · obtain ⟨front, back, rfl, hf⟩ := List.eq_append_cons_of_mem hn
    refine ⟨front ++ ['\n'], Text.lines (back ++ eol), fun h => absurd hn h, fun lines => ?_⟩
    have hf' : '\n' ∉ (Fence.around lines).marks ++ front := by
      simp [Fence.newline_not_mem_marks_around lines, hf]
    rw [← List.append_assoc, List.append_assoc, List.cons_append, Text.lines_append hf',
      List.append_assoc]
  · refine ⟨language ++ eol, [], fun _ => rfl, fun lines => ?_⟩
    have hfull : Text.IsFull ((Fence.around lines).marks ++ language ++ eol) :=
      Text.IsFull.append_eol (by simp [Fence.newline_not_mem_marks_around lines, hn]) he
    rw [hfull.lines, List.append_assoc]

theorem isEnd_marks_around (lines : List Text) (t : Text) :
    Block.isEnd ((Fence.around lines).marks ++ t) = false := by
  obtain ⟨n, hn⟩ := Fence.exists_around_eq lines
  rw [hn, Fence.marks_backticks]
  exact Block.isEnd_backtick _

theorem isFull_of_mem_injectedLines {closing : List Text} (h : ∀ line ∈ closing, Text.IsFull line) :
    ∀ line ∈ injectedLines closing, Text.IsFull line := by
  have hend : Text.IsFull (Block.endMark ++ ['\n']) := Text.IsFull.append_eol (by decide) (Or.inl rfl)
  have hinjected : Text.IsFull injectedLine :=
    Text.IsFull.append_eol (t := injectedLine.dropLast) (by decide) (Or.inl rfl)
  intro line hm
  rcases List.mem_append.mp hm with hm | hm
  · rcases List.mem_cons.mp hm with rfl | hm
    · exact hend
    · exact h line hm
  · exact List.mem_singleton.mp hm ▸ hinjected

theorem around_injectedLines : Fence.around (injectedLines []) = ⟨'\x60', 3⟩ := by decide +kernel

/-- A longer fence than that of the block is closed by nothing below its opening. -/
theorem throughFirst?_closes_injectedLines {fence : Fence} (hm : fence.marker = '\x60')
    (hlength : (Fence.around (injectedLines [])).length < fence.length) (he : Text.IsEol eol) :
    throughFirst? fence.closes (injectedLines [] ++
      [(Fence.around (injectedLines [])).marks ++ eol, Block.endMark ++ eol]) = none := by
  rw [around_injectedLines] at hlength ⊢
  have hleading : ∀ line ∈ injectedLines [] ++ [Fence.marks ⟨'\x60', 3⟩ ++ eol, Block.endMark ++ eol],
      Fence.leadingBackticks line ≤ 3 := by
    rcases he with rfl | rfl <;> decide +kernel
  rw [throughFirst?_eq_none_iff]
  intro line hl
  rw [Bool.eq_false_iff]
  intro hc
  have hle := (Fence.le_leadingBackticks_of_closes hc hm).trans (hleading line hl)
  exact absurd hlength (Nat.not_lt.mpr hle)

/-- For a directive whose blocks are not skipped there is a content of which the reader leaves lines
that ask for something. -/
theorem exists_injectedLines (he : Text.IsEol eol) (hl : language ≠ unfencedLanguage)
    (hr : Languages.resolve {} directive = .ok language) (hs : ¬ Block.Skippable directive language) :
    ∃ closing, (∀ line ∈ injectedLines closing, Text.IsFull line) ∧
      ∀ taken left, Block.split false (Text.lines (Block.beginLine directive eol ::
          Block.body ⟨injectedLines closing, language⟩ eol ++ [Block.endMark ++ eol]).flatten) =
        .ok (taken, left) → Asks none left := by
  obtain ⟨first, extra, hbegin, hisBegin, hfirst, -, hextra, hnil⟩ :=
    Block.exists_lines_beginLine directive he
  obtain ⟨head, later, hlater, hopening⟩ := exists_lines_opening he language
  -- The lines that close a fence may hold backticks, which lengthen the fence of the block. So none are
  -- written where the reader looks for that fence.
  by_cases hf : Block.isFenced first = true
  · obtain ⟨rfl, htext⟩ := hnil hf
    have hn := Languages.newline_not_mem_of_resolve htext hr
    have hb : '\x60' ∈ language := by
      by_contra hb
      exact hs ⟨iff_of_true (hfirst ▸ hf) hl, fun _ => hb, fun _ => hn⟩
    obtain rfl := hlater hn
    have hfull : ∀ line ∈ injectedLines [], Text.IsFull line := isFull_of_mem_injectedLines (by simp)
    refine ⟨[], hfull, ?_⟩
    rw [lines_flatten_fenced he hl hfull, hbegin, hopening]
    cases ho : Fence.ofLine? ((Fence.around (injectedLines [])).marks ++ head) with
    | none =>
        have hleft : ∀ below, ∃ taken, Block.splitEnd ([] ++ (Block.endMark ++ ['\n']) :: below) =
            .ok (taken, [] ++ below) := fun below => ⟨_, Block.splitEnd_endMark (Or.inl rfl) below⟩
        have hnone : ∀ below, Block.splitFenceOf first (((Fence.around (injectedLines [])).marks ++ head) ::
            below) = .ok ([], ((Fence.around (injectedLines [])).marks ++ head) :: below) := by
          intro below
          simp [Block.splitFenceOf, hf, ho]
        exact fun taken left => asks_of_splitFenceOf rfl hisBegin hextra (isEnd_marks_around _ head)
          hleft (asks_of_directive ofLine_injectedLine) (hnone _)
    | some fence =>
        have hopen : (Fence.around (injectedLines [])).marks ++ head =
            (Fence.around (injectedLines [])).marks ++ language ++ eol := by
          have hflatten := congrArg List.flatten (hopening (injectedLines []))
          rw [Text.flatten_lines, List.flatten_singleton] at hflatten
          exact hflatten.symm
        obtain ⟨hmarker, hlength⟩ := Fence.lt_length_of_ofLine? hb (hopen ▸ ho)
        have hcloses := throughFirst?_closes_injectedLines hmarker hlength he
        intro taken left hsplit
        have herror : Block.splitFenceOf first
            (((Fence.around (injectedLines [])).marks ++ head) :: (injectedLines [] ++
              [(Fence.around (injectedLines [])).marks ++ eol, Block.endMark ++ eol])) =
            .error (.unterminated fence.marks) := by
          simp only [Block.splitFenceOf, hf, if_true, ho, Block.splitFence, hcloses]
          rfl
        obtain ⟨cause, hcause⟩ := Block.exists_split_eq_error hisBegin herror false
        cases hcause.symm.trans hsplit
  · obtain ⟨left, hleft⟩ := exists_splitEnd later
    have hopen : ∀ f : Fence, none = some f → f.marker = '\x60' ∨ f.marker = '~' := by simp
    obtain ⟨closing, hclosing, hasks⟩ := exists_closing hopen left
    have hfull := isFull_of_mem_injectedLines hclosing
    refine ⟨closing, hfull, ?_⟩
    rw [lines_flatten_fenced he hl hfull, hbegin, hopening]
    have hnone := Block.splitFenceOf_iff_isFenced.mpr (by simpa using hf)
    exact fun taken left' => asks_of_splitFenceOf rfl hisBegin hextra (isEnd_marks_around _ head) hleft
      hasks (hnone _)

/-- The fence that a content opens and does not close. -/
def openedFence : List Text := [['\x60', '\x60', '\x60']]

theorem split_openedFence (he : Text.IsEol eol) (hs : ¬ Block.Skippable directive unfencedLanguage) :
    ∃ cause, Block.split false (Text.lines (Block.beginLine directive eol ::
      Block.body ⟨openedFence, unfencedLanguage⟩ eol ++ [Block.endMark ++ eol]).flatten) =
        .error cause := by
  obtain ⟨first, extra, hbegin, hisBegin, hfirst, -, hextra, hnil⟩ :=
    Block.exists_lines_beginLine directive he
  have hf : Block.isFenced first = true := by
    by_contra hf
    refine hs ⟨iff_of_false ?_ (by simp), fun h => absurd rfl h, fun h => absurd rfl h⟩
    rw [← hfirst]
    exact hf
  obtain ⟨rfl, -⟩ := hnil hf
  have hbody : Block.body ⟨openedFence, unfencedLanguage⟩ eol = ['\x60' :: '\x60' :: '\x60' :: eol] := by
    rw [Block.body_of_unfenced]
    rfl
  have hisLine : ∀ line ∈ openedFence, Text.IsLine line := by
    intro line hm
    have hopened : Text.lines openedFence.flatten = openedFence := by decide
    exact Text.isLine_of_mem_lines (hopened.symm ▸ hm)
  have ho : Fence.ofLine? ('\x60' :: '\x60' :: '\x60' :: eol) = some ⟨'\x60', 3⟩ := by
    rcases he with rfl | rfl <;> decide
  have hc : throughFirst? (Fence.closes ⟨'\x60', 3⟩) [Block.endMark ++ eol] = none := by
    rcases he with rfl | rfl <;> decide
  have herror : Block.splitFenceOf first
      ['\x60' :: '\x60' :: '\x60' :: eol, Block.endMark ++ eol] =
      .error (.unterminated (Fence.marks ⟨'\x60', 3⟩)) := by
    simp only [Block.splitFenceOf, hf, if_true, ho, Block.splitFence, hc]
    rfl
  rw [Block.lines_flatten_block (fun h => absurd rfl h) he hisLine, Block.front, hbegin, hbody]
  exact Block.exists_split_eq_error hisBegin herror false

end Injected

/-- If the blocks of a directive that asks for a whole content are not skipped, there are contents for
which a second run fails or makes other calls than the first. -/
theorem exists_refresh_output_ne {document line language : Text} {directive : Directive} (base : Text)
    (hlines : Text.lines document = [line]) (hd : Directive.ofLine line = .ok (some directive))
    (hsel : directive.selection = .whole) (hr : Languages.resolve {} directive = .ok language)
    (hs : ¬ Block.Skippable directive language) :
    ∃ fetch output, (refresh fetch base {} document).result = .ok output ∧
      ∀ again, refresh fetch base {} output ≠ ⟨(refresh fetch base {} document).calls, .ok again⟩ := by
  have heol := Text.isEol_lineEnding line
  have hd' : Directive.ofLine (Text.completeLine (Text.lineEnding line) line) = .ok (some directive) := by
    rw [Directive.ignoresEnding_ofLine.completeLine heol, hd]
  by_cases hl : language = unfencedLanguage
  · subst hl
    obtain ⟨output, h, hcalls, hout⟩ := exists_output_of_whole base hlines hd hsel hr
      (show Text.lines openedFence.flatten = openedFence by decide) (fun _ => by decide)
    obtain ⟨cause, hsplit⟩ := split_openedFence heol hs
    refine ⟨always openedFence, output, h, fun again => ?_⟩
    rw [hcalls]
    refine refresh_ne_of_split hd' hout (fun taken left hok => ?_) again
    rw [hsplit] at hok
    cases hok
  · obtain ⟨closing, hfull, hasks⟩ := exists_injectedLines heol hl hr hs
    have hinjected : Text.lines (injectedLines closing).flatten = injectedLines closing :=
      Text.lines_flatten (List.append_nil (injectedLines closing) ▸ .append hfull .nil)
    obtain ⟨output, h, hcalls, hout⟩ := exists_output_of_whole base hlines hd hsel hr hinjected
      (fun h => absurd h hl)
    refine ⟨always (injectedLines closing), output, h, fun again => ?_⟩
    rw [hcalls]
    exact refresh_ne_of_split hd' hout hasks again

/-! ## When the calls are repeated -/

/-- With default options, a second run succeeds and makes the calls of the first, whatever the contents
are. -/
def RepeatsCalls (base document : Text) : Prop :=
  ∀ fetch output, (refresh fetch base {} document).result = .ok output →
    ∃ again, refresh fetch base {} output = ⟨(refresh fetch base {} document).calls, .ok again⟩

/-- The calls are repeated if the blocks of all directives are skipped. For a directive that asks for a
whole content this is needed as well, and for one without quotes and guarded ends it means that its
language holds no backtick and is not that of unfenced snippets by the extension of the reference
alone. -/
theorem calls_refresh_output (base document : Text) :
    ((∀ part ∈ Document.parts false document, part.Skippable {}) → RepeatsCalls base document) ∧
      ∀ line command directive language, Directive.commandOf? line = some command →
        Directive.ofCommand command = .ok directive → Languages.resolve {} directive = .ok language →
        (Text.lines document = [line] → directive.selection = .whole →
          (RepeatsCalls base document ↔ Block.Skippable directive language)) ∧
        (Directive.quotesReference command = false → ¬ Block.guardedEnd <:+: command →
          (Block.Skippable directive language ↔
            '\x60' ∉ language ∧ ¬ (directive.language = none ∧ language = unfencedLanguage))) := by
  have hsame : (∀ part ∈ Document.parts false document, part.Skippable {}) → RepeatsCalls base document :=
    fun hs fetch output h => exists_refresh_output h hs
  refine ⟨hsame, fun line command directive language hc hcommand hr => ⟨fun hlines hsel => ?_, ?_⟩⟩
  · have hd : Directive.ofLine line = .ok (some directive) := by
      simp only [Directive.ofLine, hc, hcommand]
      rfl
    constructor
    · intro hrepeats
      by_contra hs
      obtain ⟨fetch, output, h, hother⟩ := exists_refresh_output_ne base hlines hd hsel hr hs
      obtain ⟨again, hagain⟩ := hrepeats fetch output h
      exact hother again hagain
    · refine fun hs => hsame ?_
      rw [parts_of_ofLine hlines hd]
      intro part hm
      obtain rfl := List.mem_singleton.mp hm
      exact fun language' hr' => Except.ok.inj (hr.symm.trans hr') ▸ hs
  · intro hq hg
    have hreadable := (Directive.isReadable_of_ofCommand hcommand hq).1
    have hn := Languages.newline_not_mem_of_resolve hreadable.newline_not_mem_text hr
    have hnone : language = unfencedLanguage → '\x60' ∉ language := by
      rintro rfl
      decide
    rw [Block.skippable_iff hreadable (Block.not_guardedEnd_infix_text hcommand hq hg) hr]
    constructor
    · rintro ⟨hwritten, hfits⟩
      by_cases hl : language = unfencedLanguage
      · exact ⟨hnone hl, hwritten⟩
      · exact ⟨(hfits hl).1, hwritten⟩
    · rintro ⟨hb, hwritten⟩
      exact ⟨hwritten, fun _ => ⟨hb, hn⟩⟩

theorem calls_refresh_output_backtick :
    RepeatsCalls [] (Text.ofLines ["[embedmd]:# (x.txt)", "[embedmd]:# (y.txt none)"]) ∧
      ¬ RepeatsCalls [] (Text.ofLines ["[embedmd]:# (x.txt a`b)"]) := by
  refine ⟨(calls_refresh_output [] _).1 (by decide +kernel), ?_⟩
  let directive : Directive := ⟨"x.txt".toList, some "a`b".toList, .whole⟩
  have hc : Directive.commandOf? (Text.ofLines ["[embedmd]:# (x.txt a`b)"]) =
      some " (x.txt a`b)".toList := by decide +kernel
  have hcommand : Directive.ofCommand " (x.txt a`b)".toList = .ok directive := by decide +kernel
  have hr : Languages.resolve {} directive = .ok "a`b".toList := by decide +kernel
  obtain ⟨hrepeats, hskippable⟩ :=
    (calls_refresh_output [] (Text.ofLines ["[embedmd]:# (x.txt a`b)"])).2 _ _ _ _ hc hcommand hr
  rw [hrepeats (by decide +kernel) rfl, hskippable (by decide +kernel) (by decide +kernel)]
  decide +kernel

end Transclude.Document
