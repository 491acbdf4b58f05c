import Mathlib.Data.List.Chain
import Transclude.Document.Update
import Transclude.Proofs.Cli.Paint
import Transclude.Proofs.Diff.Unified

/-!
# What painted diffs show

A diff is painted by how its written lines begin, and not by what they are. Both come to the same for all
lines of a diff exactly if no changed line looks like one with a name, none is written behind a carriage
return that ends a line of another sort, and the name of the document does not break its own line
(`shown_diff_eq_iff`).
-/

namespace Transclude

/-! ## Lines of a diff -/

namespace Diff

open Paint (Span shown shownIn)

/-- The way in which a line is to be shown by what it is, if it is not plain. -/
def Line.paint? : Line → Option Paint
  | .oldName _ | .newName _ => some .bold
  | .hunk _ _ => some .cyan
  | .kept _ => none
  | .removed _ => some .red
  | .added _ => some .green

/-- The note below a line that the text does not end. -/
def note : Text := "\\ No newline at end of file\n".toList

theorem newline_cons_note : "\n\\ No newline at end of file\n".toList = '\n' :: note := by decide

theorem markedText_of_not_ends {mark : Char} {line : Text}
    (h : ¬(line.getLast? = some '\n' ∨ line.getLast? = some '\r')) :
    markedText mark line = mark :: line ++ ['\n'] ++ note := by
  unfold markedText
  extract_lets ended
  rw [if_neg (show ¬ended from h), newline_cons_note, List.append_assoc]
  rfl

theorem markedText_of_ends {mark : Char} {line : Text}
    (h : line.getLast? = some '\n' ∨ line.getLast? = some '\r') : markedText mark line = mark :: line := by
  unfold markedText
  extract_lets ended
  rw [if_pos (show ended from h), List.append_nil]

theorem shown_note_append (t : Text) : shown (note ++ t) = note.map (·, none) ++ shown t := by
  rw [Paint.shown_eq_shownIn]
  exact Paint.shownIn_append_of_isFull ⟨"\\ No newline at end of file".toList, by decide, by decide⟩ t

/-- A line behind a mark, with a plain note if the text ends without ending the line. -/
def markedSpans (paint? : Option Paint) (mark : Char) (line : Text) : List Span :=
  if line.getLast? = some '\n' ∨ line.getLast? = some '\r' then [⟨paint?, mark :: line⟩]
  else [⟨paint?, mark :: line ++ ['\n']⟩, ⟨none, note⟩]

/-- The line as it is to be shown. -/
def Line.spans (line : Line) : List Span :=
  match line with
  | .oldName _ | .newName _ | .hunk _ _ => [⟨line.paint?, line.text⟩]
  | .kept text => markedSpans line.paint? ' ' text
  | .removed text => markedSpans line.paint? '-' text
  | .added text => markedSpans line.paint? '+' text

theorem flatMap_text_spans (line : Line) : line.spans.flatMap Span.text = line.text := by
  have hmarked : ∀ paint? mark text,
      (markedSpans paint? mark text).flatMap Span.text = markedText mark text := by
    intro paint? mark text
    unfold markedSpans
    split
    · next h => rw [markedText_of_ends h, List.flatMap_singleton]
    · next h => rw [markedText_of_not_ends h, List.flatMap_cons, List.flatMap_singleton]
  cases line with
  | oldName | newName | hunk => simp [Line.spans]
  | kept | removed | added => exact hmarked _ _ _

/-- Whether the line ends with a carriage return alone, so that what follows is written on the same line. -/
def Line.RunsOn : Line → Prop
  | .kept text | .removed text | .added text => text.getLast? = some '\r'
  | .oldName _ | .newName _ | .hunk _ _ => False

/-- Whether the line looks like one with a name, by its mark and two more in the text itself. -/
def Line.LooksLikeName : Line → Prop
  | .removed text => "--".toList <+: text
  | .added text => "++".toList <+: text
  | .oldName _ | .newName _ | .hunk _ _ | .kept _ => False

instance (line : Line) : Decidable line.RunsOn :=
  match line with
  | .kept text | .removed text | .added text => inferInstanceAs (Decidable (text.getLast? = some '\r'))
  | .oldName _ | .newName _ | .hunk _ _ => inferInstanceAs (Decidable False)

instance (line : Line) : Decidable line.LooksLikeName :=
  match line with
  | .removed text => inferInstanceAs (Decidable ("--".toList <+: text))
  | .added text => inferInstanceAs (Decidable ("++".toList <+: text))
  | .oldName _ | .newName _ | .hunk _ _ | .kept _ => inferInstanceAs (Decidable False)

/-- The next line is shown by what it is: it is of the sort of the line that it is written on, or begins
a line of its own and does not look like one with a name. -/
def Line.Precedes (line next : Line) : Prop :=
  if line.RunsOn then next.paint? = line.paint? else ¬next.LooksLikeName

instance (line next : Line) : Decidable (line.Precedes next) :=
  inferInstanceAs (Decidable (if line.RunsOn then next.paint? = line.paint? else ¬next.LooksLikeName))

/-- The line is one of a hunk, and what it shows of a text is one line. -/
def Line.IsSingle : Line → Prop
  | .kept text | .removed text | .added text => Text.IsLine text
  | .hunk _ _ => True
  | .oldName _ | .newName _ => False

theorem map_append_eq_iff {paint? paint?' : Option Paint} {text : Text} (h : text ≠ [])
    (s t : List (Char × Option Paint)) :
    text.map (·, paint?) ++ s = text.map (·, paint?') ++ t ↔ paint? = paint?' ∧ s = t := by
  constructor
  · intro he
    obtain ⟨hmap, rfl⟩ := List.append_inj he (by simp)
    obtain ⟨c, rest, rfl⟩ := List.exists_cons_of_ne_nil h
    exact ⟨(Prod.mk.inj (List.cons.inj hmap).1).2, rfl⟩
  · rintro ⟨rfl, rfl⟩
    rfl

/-- A marked line is shown in the way of the line that it is written on, which goes on behind a carriage
return. -/
theorem shownIn_markedText_iff {mark : Char} {text : Text} (hm : mark ≠ '\n') (h : Text.IsLine text)
    (paint? paint?' : Option Paint) (t : Text) (s : List (Char × Option Paint)) :
    shownIn paint? (markedText mark text ++ t) = (markedSpans paint?' mark text).flatMap Span.shown ++ s ↔
      paint? = paint?' ∧ if text.getLast? = some '\r' then shownIn paint? t = s else shown t = s := by
  rcases h with ⟨front, hfront, rfl⟩ | hnot
  · -- A line feed: what follows begins a line of its own.
    have hends : (front ++ ['\n']).getLast? = some '\n' := List.getLast?_concat
    have hfull : Text.IsFull (mark :: (front ++ ['\n'])) := ⟨mark :: front, by simp [hm.symm, hfront], rfl⟩
    have hspans : (markedSpans paint?' mark (front ++ ['\n'])).flatMap Span.shown =
        (mark :: (front ++ ['\n'])).map (·, paint?') := by
      simp [markedSpans, Span.shown]
    rw [markedText_of_ends (Or.inl hends), hspans, Paint.shownIn_append_of_isFull hfull,
      map_append_eq_iff (List.cons_ne_nil _ _), hends, if_neg (by decide)]
  · have hmarked : '\n' ∉ mark :: text := by simp [hm.symm, hnot]
    have hn : text.getLast? ≠ some '\n' := fun he => hnot (List.mem_of_getLast? he)
    by_cases hr : text.getLast? = some '\r'
    · -- A carriage return alone: what follows is on the same line.
      have hspans : (markedSpans paint?' mark text).flatMap Span.shown = (mark :: text).map (·, paint?') := by
        simp [markedSpans, hr, Span.shown]
      rw [markedText_of_ends (Or.inr hr), hspans, Paint.shownIn_append hmarked,
        map_append_eq_iff (List.cons_ne_nil _ _), if_pos hr]
    · -- No line ending: the note takes a line between.
      have hspans : (markedSpans paint?' mark text).flatMap Span.shown =
          (mark :: text ++ ['\n']).map (·, paint?') ++ note.map (·, none) := by
        simp [markedSpans, hn, hr, Span.shown]
      rw [markedText_of_not_ends (not_or.mpr ⟨hn, hr⟩), hspans, List.append_assoc,
        Paint.shownIn_append_of_isFull ⟨_, hmarked, rfl⟩, shown_note_append, List.append_assoc,
        map_append_eq_iff (by simp), if_neg hr, List.append_cancel_left_eq]

theorem newline_not_mem_number (n : Nat) : '\n' ∉ (toString n).toList := by
  rw [Nat.toString_eq_repr, Nat.repr_eq_ofList_toDigits, String.toList_ofList]
  intro h
  have := Nat.isDigit_of_mem_toDigits (by decide) (by decide) h
  cases this

theorem newline_not_mem_rangeText (range : Nat × Nat) : '\n' ∉ rangeText range := by
  unfold rangeText
  extract_lets length number
  have hnumber : ∀ n, '\n' ∉ number n := newline_not_mem_number
  split
  · exact hnumber _
  · split
    · simp [hnumber]
    · simp [hnumber]

theorem isFull_append {front line : Text} (h : '\n' ∉ front) (hl : Text.IsFull line) :
    Text.IsFull (front ++ line) := by
  obtain ⟨body, hbody, rfl⟩ := hl
  exact ⟨front ++ body, by simp [h, hbody], (List.append_assoc _ _ _).symm⟩

theorem isFull_hunk (old new : Nat × Nat) : Text.IsFull (Line.hunk old new).text :=
  isFull_append (by simp [newline_not_mem_rangeText]) ⟨" @@".toList, by decide, by decide⟩

theorem shownIn_text_iff {line : Line} (h : line.IsSingle) (paint? : Option Paint) (t : Text)
    (s : List (Char × Option Paint)) :
    shownIn paint? (line.text ++ t) = line.spans.flatMap Span.shown ++ s ↔
      paint? = line.paint? ∧ if line.RunsOn then shownIn paint? t = s else shown t = s := by
  cases line with
  | oldName | newName => exact absurd h id
  | hunk old new =>
      have hspans : (Line.hunk old new).spans.flatMap Span.shown =
          (Line.hunk old new).text.map (·, (Line.hunk old new).paint?) := List.flatMap_singleton _ _
      have hne : (Line.hunk old new).text ≠ [] := List.cons_ne_nil _ _
      rw [hspans, Paint.shownIn_append_of_isFull (isFull_hunk old new), map_append_eq_iff hne,
        if_neg (show ¬(Line.hunk old new).RunsOn from id)]
  | kept text | removed text | added text => exact shownIn_markedText_iff (by decide) h _ _ t s

theorem ofDiffLine?_markedText (mark : Char) (text t : Text) :
    Paint.ofDiffLine? (markedText mark text ++ t) = Paint.ofDiffLine? (mark :: text) := by
  by_cases h : text.getLast? = some '\n' ∨ text.getLast? = some '\r'
  · obtain ⟨c, front, hc, rfl⟩ : ∃ c front, (c = '\n' ∨ c = '\r') ∧ text = front ++ [c] := by
      rcases h with h | h
      · obtain ⟨front, hf⟩ := List.getLast?_eq_some_iff.mp h
        exact ⟨_, front, Or.inl rfl, hf⟩
      · obtain ⟨front, hf⟩ := List.getLast?_eq_some_iff.mp h
        exact ⟨_, front, Or.inr rfl, hf⟩
    have hcut := Paint.ofDiffLine?_append_cons hc (mark :: front)
    rw [markedText_of_ends h]
    simpa using (hcut t).trans (hcut []).symm
  · rw [markedText_of_not_ends h]
    simpa using Paint.ofDiffLine?_append_cons (Or.inl rfl) (mark :: text) (note ++ t)

theorem ofDiffLine?_text_iff {line : Line} (h : line.IsSingle) (t : Text) :
    Paint.ofDiffLine? (line.text ++ t) = line.paint? ↔ ¬line.LooksLikeName := by
  cases line with
  | oldName | newName => exact absurd h id
  | hunk old new => exact iff_of_true rfl id
  | kept text => exact iff_of_true rfl id
  | removed text =>
      have htext := ofDiffLine?_markedText '-' text t
      rw [Paint.ofDiffLine?_eq ('-' :: text)] at htext
      refine (Eq.congr_left htext).trans ?_
      simp [Line.paint?, Line.LooksLikeName]
  | added text =>
      have htext := ofDiffLine?_markedText '+' text t
      rw [Paint.ofDiffLine?_eq ('+' :: text)] at htext
      refine (Eq.congr_left htext).trans ?_
      simp [Line.paint?, Line.LooksLikeName]

/-- Lines of hunks are shown by what they are, the first in the given way, exactly if each is one that
the next can follow. -/
theorem shownIn_flatMap_text_iff {line : Line} {rest : List Line} (h : ∀ l ∈ line :: rest, l.IsSingle)
    (paint? : Option Paint) :
    shownIn paint? ((line :: rest).flatMap Line.text) =
        ((line :: rest).flatMap Line.spans).flatMap Span.shown ↔
      paint? = line.paint? ∧ (line :: rest).IsChain Line.Precedes := by
  induction rest generalizing line paint? with
  | nil =>
      have hline := shownIn_text_iff (h line List.mem_cons_self) paint? [] []
      simpa [shownIn, shown, Paint.spans, Text.lines] using hline
  | cons next rest ih =>
      obtain ⟨hline, hrest⟩ := List.forall_mem_cons.mp h
      have hnext : next.IsSingle := hrest next List.mem_cons_self
      have hspans : ((line :: next :: rest).flatMap Line.spans).flatMap Span.shown =
          line.spans.flatMap Span.shown ++ ((next :: rest).flatMap Line.spans).flatMap Span.shown := by
        rw [List.flatMap_cons, List.flatMap_append]
      rw [List.flatMap_cons, hspans, shownIn_text_iff hline, List.isChain_cons_cons]
      refine and_congr_right fun hp => ?_
      rw [Line.Precedes]
      split
      · rw [ih hrest, hp, eq_comm]
      · rw [Paint.shown_eq_shownIn, ih hrest, List.flatMap_cons, ofDiffLine?_text_iff hnext]

-- The removed line is written behind the carriage return of the kept one.
example : ¬[.kept "a\r".toList, .removed "b\n".toList].IsChain Line.Precedes := by decide

/-! ## Lines with names -/

/-- Behind each line feed in the name the line that follows looks like one with a name. -/
def BreaksLikeName (name : Text) : Prop :=
  ∀ above below, name = above ++ '\n' :: below → "+++".toList <+: below ∨ "---".toList <+: below

theorem breaksLikeName_cons {c : Char} (hc : c ≠ '\n') (name : Text) :
    BreaksLikeName (c :: name) ↔ BreaksLikeName name := by
  constructor
  · rintro h above below rfl
    exact h (c :: above) below rfl
  · intro h above below he
    cases above with
    | nil => exact absurd (List.cons.inj he).1 hc
    | cons d above => exact h above below (List.cons.inj he).2

theorem breaksLikeName_newline (name : Text) :
    BreaksLikeName ('\n' :: name) ↔
      ("+++".toList <+: name ∨ "---".toList <+: name) ∧ BreaksLikeName name := by
  constructor
  · intro h
    refine ⟨h [] name rfl, ?_⟩
    rintro above below rfl
    exact h ('\n' :: above) below rfl
  · rintro ⟨hname, h⟩ above below he
    cases above with
    | nil => exact (List.cons.inj he).2 ▸ hname
    | cons d above => exact h above below (List.cons.inj he).2

theorem breaksLikeName_append {front : Text} (h : '\n' ∉ front) (name : Text) :
    BreaksLikeName (front ++ name) ↔ BreaksLikeName name := by
  induction front with
  | nil => rfl
  | cons c front ih =>
      rw [List.mem_cons, not_or] at h
      rw [List.cons_append, breaksLikeName_cons (Ne.symm h.1), ih h.2]

/-- The characters of a name are shown in bold exactly if it breaks like one, and what follows its line is
shown by how it begins. -/
theorem shownIn_name_iff (name t : Text) (s : List (Char × Option Paint)) :
    shownIn (some .bold) (name ++ '\n' :: t) = (name ++ ['\n']).map (·, some .bold) ++ s ↔
      BreaksLikeName name ∧ shown t = s := by
  induction name with
  | nil =>
      have hnil : BreaksLikeName [] := fun above below he => by simp at he
      simp [shownIn, hnil]
  | cons c name ih =>
      by_cases hc : c = '\n'
      · subst hc
        have hne : name ++ ['\n'] ≠ [] := by simp
        have hbold := Paint.ofDiffLine?_append_cons (Or.inl rfl) name t
        have hname := Paint.shownIn_eq_iff (Paint.ofDiffLine? name) (some .bold) hne t s
        simp only [List.append_assoc, List.singleton_append] at hname
        rw [breaksLikeName_newline, and_assoc, ← ih, ← Paint.ofDiffLine?_eq_bold_iff]
        simp only [List.cons_append, shownIn, if_true, List.map_cons, List.cons.injEq, true_and]
        rw [Paint.shown_eq_shownIn, hbold]
        exact hname
      · simpa [shownIn, hc, breaksLikeName_cons hc] using ih

theorem shown_name_iff {line : Line} {name : Text} (h : line = .oldName name ∨ line = .newName name)
    (t : Text) (s : List (Char × Option Paint)) :
    shown (line.text ++ t) = line.spans.flatMap Span.shown ++ s ↔ BreaksLikeName name ∧ shown t = s := by
  have hmark : ∀ mark : Text, "+++".toList <+: mark ∨ "---".toList <+: mark → '\n' ∉ mark →
      (shown (mark ++ name ++ ['\n'] ++ t) = (mark ++ name ++ ['\n']).map (·, some .bold) ++ s ↔
        BreaksLikeName name ∧ shown t = s) := by
    intro mark hstart hn
    have hbold : Paint.ofDiffLine? (mark ++ name ++ ['\n'] ++ t) = some .bold := by
      rw [Paint.ofDiffLine?_eq_bold_iff, List.append_assoc, List.append_assoc]
      exact hstart.imp (·.trans (List.prefix_append _ _)) (·.trans (List.prefix_append _ _))
    rw [Paint.shown_eq_shownIn, hbold, List.append_assoc (mark ++ name), List.singleton_append,
      shownIn_name_iff, breaksLikeName_append hn]
  rcases h with rfl | rfl
  · rw [Line.spans, List.flatMap_singleton]
    exact hmark "--- ".toList (by decide) (by decide)
  · rw [Line.spans, List.flatMap_singleton]
    exact hmark "+++ ".toList (by decide) (by decide)

/-! ## Hunks -/

theorem Hunks.standsIn_or_eq_hunk {before after : Text} {hunks : List Line} (h : Hunks before after hunks) :
    ∀ line ∈ hunks, line.StandsIn before after ∨ ∃ old new, line = .hunk old new := by
  induction h with
  | nil => simp
  | cons old new hshown _ ih =>
      intro line hl
      rcases List.mem_cons.mp hl with rfl | hl
      · exact Or.inr ⟨old, new, rfl⟩
      · rcases List.mem_append.mp hl with hl | hl
        · exact Or.inl (hshown line hl)
        · exact ih line hl

theorem Hunks.isSingle {before after : Text} {hunks : List Line} (h : Hunks before after hunks) :
    ∀ line ∈ hunks, line.IsSingle := by
  intro line hl
  rcases h.standsIn_or_eq_hunk line hl with hstands | ⟨old, new, rfl⟩
  · cases line with
    | oldName | newName | hunk => exact hstands.elim
    | kept => exact isLine_of_mem_lines hstands.1
    | removed | added => exact isLine_of_mem_lines hstands
  · trivial

theorem Hunks.shown_iff {before after : Text} {hunks : List Line} (h : Hunks before after hunks) :
    shown (hunks.flatMap Line.text) = (hunks.flatMap Line.spans).flatMap Span.shown ↔
      hunks.IsChain Line.Precedes := by
  cases hunks with
  | nil => exact iff_of_true rfl .nil
  | cons line rest =>
      have hline : ¬line.LooksLikeName := by
        cases h
        exact id
      have hbegins : Paint.ofDiffLine? ((line :: rest).flatMap Line.text) = line.paint? :=
        (ofDiffLine?_text_iff (h.isSingle line List.mem_cons_self) _).mpr hline
      rw [Paint.shown_eq_shownIn, shownIn_flatMap_text_iff h.isSingle, and_iff_right hbegins]

end Diff

/-! ## Updates -/

namespace Update

/-- The lines of the difference that an update makes. -/
def diffLines (update : Update) : List Diff.Line :=
  Diff.unifiedLines ("a/".toList ++ update.name) ("b/".toList ++ update.name) update.present update.updated

theorem diff_eq_flatMap_text {update : Update} (h : update.hasChanges = true) :
    update.diff = update.diffLines.flatMap Diff.Line.text := by
  rw [diff, if_pos h]
  rfl

theorem exists_hunks {update : Update} (h : update.hasChanges = true) :
    ∃ hunks, hunks ≠ [] ∧ Diff.Hunks update.present update.updated hunks ∧
      update.diffLines =
        .oldName ("a/".toList ++ update.name) :: .newName ("b/".toList ++ update.name) :: hunks :=
  Diff.unifiedLines_eq _ _ (bne_iff_ne.mp h)

theorem shown_diff_iff {update : Update} {hunks : List Diff.Line} (h : update.hasChanges = true)
    (hhunks : Diff.Hunks update.present update.updated hunks)
    (hlines : update.diffLines =
      .oldName ("a/".toList ++ update.name) :: .newName ("b/".toList ++ update.name) :: hunks) :
    Paint.shown update.diff = (update.diffLines.flatMap Diff.Line.spans).flatMap Paint.Span.shown ↔
      Diff.BreaksLikeName update.name ∧ hunks.IsChain Diff.Line.Precedes := by
  rw [diff_eq_flatMap_text h, hlines]
  simp only [List.flatMap_cons, List.flatMap_append]
  rw [Diff.shown_name_iff (Or.inl rfl), Diff.shown_name_iff (Or.inr rfl), hhunks.shown_iff,
    Diff.breaksLikeName_append (by decide), Diff.breaksLikeName_append (by decide), ← and_assoc, and_self]

/-- A painted diff shows its lines by what they are if no line of the texts looks like one with a name behind
its mark, no carriage return ends a line of them alone, and the name is one line. -/
theorem shown_diff_of_forall {update : Update} (h : update.hasChanges = true) (hname : '\n' ∉ update.name)
    (hpresent : ∀ line ∈ Diff.lines update.present, ¬"--".toList <+: line ∧ line.getLast? ≠ some '\r')
    (hupdated : ∀ line ∈ Diff.lines update.updated, ¬"++".toList <+: line ∧ line.getLast? ≠ some '\r') :
    Paint.shown update.diff = (update.diffLines.flatMap Diff.Line.spans).flatMap Paint.Span.shown := by
  obtain ⟨hunks, -, hhunks, hlines⟩ := exists_hunks h
  have hline : ∀ line ∈ hunks, ¬line.RunsOn ∧ ¬line.LooksLikeName := by
    intro line hl
    rcases hhunks.standsIn_or_eq_hunk line hl with hstands | ⟨old, new, rfl⟩
    · cases line with
      | oldName | newName | hunk => exact hstands.elim
      | kept text => exact ⟨(hpresent text hstands.1).2, id⟩
      | removed text => exact ⟨(hpresent text hstands).2, (hpresent text hstands).1⟩
      | added text => exact ⟨(hupdated text hstands).2, (hupdated text hstands).1⟩
    · exact ⟨id, id⟩
  refine (shown_diff_iff h hhunks hlines).mpr ⟨?_, ?_⟩
  · rintro above below hbreak
    exact absurd (by simp [hbreak]) hname
  · refine (List.pairwise_of_forall_mem_list fun line hl next hn => ?_).isChain
    rw [Diff.Line.Precedes, if_neg (hline line hl).1]
    exact (hline next hn).2

/-- An update with changes makes a diff of two lines with names and of hunks behind them. When painted, the
diff shows each line by what it is, and a note below it plain, exactly if the name breaks only into lines that
look like ones with names, and in the hunks each line is one that the next can follow. -/
theorem shown_diff_eq_iff (update : Update) (h : update.hasChanges = true) :
    ∃ hunks, hunks ≠ [] ∧ Diff.Hunks update.present update.updated hunks ∧
      update.diffLines =
        .oldName ("a/".toList ++ update.name) :: .newName ("b/".toList ++ update.name) :: hunks ∧
      update.diff = update.diffLines.flatMap Diff.Line.text ∧
      Paint.diff true update.diff = (Paint.spans update.diff).flatMap Paint.Span.written ∧
      ((Paint.spans update.diff).flatMap Paint.Span.shown =
          (update.diffLines.flatMap Diff.Line.spans).flatMap Paint.Span.shown ↔
        Diff.BreaksLikeName update.name ∧ hunks.IsChain Diff.Line.Precedes) := by
  obtain ⟨hunks, hne, hhunks, hlines⟩ := exists_hunks h
  exact ⟨hunks, hne, hhunks, hlines, diff_eq_flatMap_text h, Paint.diff_true_eq _,
    shown_diff_iff h hhunks hlines⟩

theorem shown_diff_eq_iff_doubled :
    let update : Update :=
      { path := some "doc.md".toList
        present := Text.ofLines ["[embedmd]:# (a.txt)"]
        updated := Text.ofLines ["[embedmd]:# (a.txt)", "<!-- embedmd:begin (a.txt) -->", "```txt", "++x",
          "```", "<!-- embedmd:end -->"] }
    update.hasChanges = true ∧ Diff.Line.added "++x\n".toList ∈ update.diffLines ∧
      (Paint.spans update.diff).flatMap Paint.Span.shown ≠
        (update.diffLines.flatMap Diff.Line.spans).flatMap Paint.Span.shown := by
  intro update
  have h : update.hasChanges = true := by decide +kernel
  have hlines : update.diffLines = .oldName "a/doc.md".toList :: .newName "b/doc.md".toList ::
      [.hunk (0, 1) (0, 6), .kept "[embedmd]:# (a.txt)\n".toList,
        .added "<!-- embedmd:begin (a.txt) -->\n".toList, .added "```txt\n".toList, .added "++x\n".toList,
        .added "```\n".toList, .added "<!-- embedmd:end -->\n".toList] := by decide +kernel
  refine ⟨h, by rw [hlines]; decide, fun hshown => ?_⟩
  obtain ⟨hunks, -, -, hlines', -, -, hiff⟩ := shown_diff_eq_iff update h
  obtain ⟨-, hchain⟩ := hiff.mp hshown
  rw [hlines] at hlines'
  obtain rfl := (List.cons.inj (List.cons.inj hlines').2).2
  revert hchain
  decide

end Update

end Transclude
