import Transclude.Block
import Transclude.Proofs.Directive.RoundTrip
import Transclude.Proofs.Text.Lines

/-!
# The echo of a directive

The line that begins a block echoes the directive with the ends of comments guarded. A directive is
read back from the line written for it (`directiveOf?_beginLine`), unless its command has a guarded
end of its own, which the reader would take off: then it is not (`directiveOf?_beginLine_iff`).
-/

namespace Transclude.Block

/-! ## Guarded ends -/

/-- An end of a comment as the echo writes it. -/
def guardedEnd : Text := ['-', '-', '\\', '>']

theorem commentEnd_eq : commentEnd = ['-', '-', '>'] := by decide

theorem unguardEnds_of_not_infix {t : Text} (h : ¬ guardedEnd <:+: t) : unguardEnds t = t := by
  fun_induction unguardEnds t with
  | case1 => rfl
  | case2 rest => exact absurd ⟨[], rest, rfl⟩ h
  | case3 c rest _ ih => rw [ih fun hr => h (hr.trans (List.suffix_cons c rest).isInfix)]

theorem exists_of_guardEnds_eq_cons {t x : Text} {c : Char} (h : guardEnds t = c :: x) :
    ∃ y, t = c :: y ∧ (guardEnds y = x ∨ ∃ z, x = '-' :: '\\' :: '>' :: z) := by
  unfold guardEnds at h
  split at h
  · cases h
  · cases h
    exact ⟨_, rfl, Or.inr ⟨_, rfl⟩⟩
  · cases h
    exact ⟨_, rfl, Or.inl rfl⟩

theorem unguardEnds_guardEnds (t : Text) : unguardEnds (guardEnds t) = unguardEnds t := by
  fun_induction guardEnds t with
  | case1 => rfl
  | case2 rest ih => simp [unguardEnds, ih]
  | case3 c rest hend ih =>
      by_cases hg : ∃ y, c = '-' ∧ rest = '-' :: '\\' :: '>' :: y
      · obtain ⟨y, rfl, rfl⟩ := hg
        simpa [guardEnds, unguardEnds] using ih
      · have hg' : ∀ x, c = '-' → guardEnds rest = '-' :: '\\' :: '>' :: x → False := by
          intro x hc hx
          obtain ⟨y, rfl, hy | ⟨z, hz⟩⟩ := exists_of_guardEnds_eq_cons hx
          · obtain ⟨y', rfl, hy' | ⟨z, hz⟩⟩ := exists_of_guardEnds_eq_cons hy
            · obtain ⟨y'', rfl, _⟩ := exists_of_guardEnds_eq_cons hy'
              exact hg ⟨y'', hc, rfl⟩
            · cases hz
          · cases hz
        rw [unguardEnds.eq_3 c _ hg', unguardEnds.eq_3 c rest fun y hc hy => hg ⟨y, hc, hy⟩, ih]

theorem exists_of_unguardEnds_eq_cons {t x : Text} {c : Char} (h : unguardEnds t = c :: x) :
    ∃ y, t = c :: y ∧ (unguardEnds y = x ∨ ∃ z, x = '-' :: '>' :: z) := by
  unfold unguardEnds at h
  split at h
  · cases h
  · cases h
    exact ⟨_, rfl, Or.inr ⟨_, rfl⟩⟩
  · cases h
    exact ⟨_, rfl, Or.inl rfl⟩

theorem exists_unguardEnds_cons (c : Char) (t : Text) : ∃ x, unguardEnds (c :: t) = c :: x := by
  unfold unguardEnds
  split
  · next h => cases h
  · next h =>
      cases h
      exact ⟨_, rfl⟩
  · next h =>
      cases h
      exact ⟨_, rfl⟩

theorem unguardEnds_cons {c : Char} (hc : c ≠ '-') (t : Text) :
    unguardEnds (c :: t) = c :: unguardEnds t :=
  unguardEnds.eq_3 c t fun _ he => absurd he hc

/-- The text that is left holds no guarded end: taking one off leaves none in its place. -/
theorem not_guardedEnd_infix_unguardEnds (t : Text) : ¬ guardedEnd <:+: unguardEnds t := by
  fun_induction unguardEnds t with
  | case1 => decide
  | case2 rest ih => simpa [guardedEnd, List.infix_cons_iff] using ih
  | case3 c rest hend ih =>
      intro h
      rcases List.infix_cons_iff.mp h with ⟨x, hx⟩ | h
      · obtain ⟨rfl, hx'⟩ := List.cons.inj hx
        obtain ⟨y, rfl, hy | ⟨z, hz⟩⟩ := exists_of_unguardEnds_eq_cons hx'.symm
        · obtain ⟨y', rfl, hy' | ⟨z, hz⟩⟩ := exists_of_unguardEnds_eq_cons hy
          · obtain ⟨y'', rfl, _⟩ := exists_of_unguardEnds_eq_cons hy'
            exact hend y'' rfl rfl
          · cases hz
        · cases hz
      · exact ih h

@[simp] theorem newline_mem_guardEnds_iff {t : Text} : '\n' ∈ guardEnds t ↔ '\n' ∈ t := by
  fun_induction guardEnds t with
  | case1 => rfl
  | case2 rest ih => simp [ih]
  | case3 c rest _ ih => simp only [List.mem_cons, ih]

theorem guardEnds_concat {c : Char} (hc : c ≠ '>') (t : Text) :
    guardEnds (t ++ [c]) = guardEnds t ++ [c] := by
  fun_induction guardEnds t with
  | case1 =>
      rw [List.nil_append, guardEnds.eq_3 c [] fun _ _ h => nomatch h]
      rfl
  | case2 rest ih => simp [guardEnds, ih]
  | case3 d rest hend ih =>
      have hend' : ∀ x, d = '-' → rest ++ [c] = '-' :: '>' :: x → False := by
        intro x hd hx
        match rest, hx with
        | [], hx => cases hx
        | [_], hx => exact hc (by simp_all)
        | _ :: _ :: rest, hx => exact hend rest hd (by simp_all)
      rw [List.cons_append, guardEnds.eq_3 d _ hend', ih]
      rfl

theorem not_commentEnd_infix_guardEnds (t : Text) : ¬ commentEnd <:+: guardEnds t := by
  fun_induction guardEnds t with
  | case1 => decide
  | case2 rest ih => simpa [commentEnd_eq, List.infix_cons_iff] using ih
  | case3 c rest hend ih =>
      intro h
      rcases List.infix_cons_iff.mp h with ⟨x, hx⟩ | h
      · rw [commentEnd_eq] at hx
        obtain ⟨rfl, hx'⟩ := List.cons.inj hx
        obtain ⟨y, rfl, hy | ⟨z, hz⟩⟩ := exists_of_guardEnds_eq_cons hx'.symm
        · obtain ⟨y', rfl, _⟩ := exists_of_guardEnds_eq_cons hy
          exact hend y' rfl rfl
        · cases hz
      · exact ih h

/-! ## Commands without guarded ends -/

theorem infix_or_infix_of_not_mem {p s t : Text} {c : Char} (hc : c ∉ p) (h : p <:+: s ++ c :: t) :
    p <:+: s ∨ p <:+: t := by
  rcases List.infix_append_iff.mp h with h | h | ⟨p₁, p₂, rfl, h₁, h₂⟩
  · exact Or.inl h
  · rcases List.infix_cons_iff.mp h with h | h
    · rcases List.prefix_cons_iff.mp h with rfl | ⟨q, rfl, _⟩
      · exact Or.inl List.nil_infix
      · exact absurd List.mem_cons_self hc
    · exact Or.inr h
  · rcases List.prefix_cons_iff.mp h₂ with rfl | ⟨q, rfl, _⟩
    · simpa using Or.inl h₁.isInfix
    · exact absurd (by simp) hc

theorem guardedEnd_infix_arguments {r : Text} {args : List Token}
    (h : guardedEnd <:+: r ++ (args.flatMap (fun t => ' ' :: t.text) ++ [')'])) :
    guardedEnd <:+: r ∨ ∃ t ∈ args, guardedEnd <:+: t.text := by
  induction args generalizing r with
  | nil =>
      rcases infix_or_infix_of_not_mem (by decide) h with h | h
      · exact Or.inl h
      · exact absurd h (by decide)
  | cons t args ih =>
      simp only [List.flatMap_cons, List.append_assoc, List.cons_append] at h
      rcases infix_or_infix_of_not_mem (by decide) h with h | h
      · exact Or.inl h
      · rcases ih h with h | ⟨u, hu, h⟩
        · exact Or.inr ⟨t, by simp, h⟩
        · exact Or.inr ⟨u, by simp [hu], h⟩

/-- A command without guarded ends gives a directive that is written without them. -/
theorem not_guardedEnd_infix_text {command : Text} {directive : Directive}
    (h : Directive.ofCommand command = .ok directive)
    (hq : Directive.quotesReference command = false) (hg : ¬ guardedEnd <:+: command) :
    ¬ guardedEnd <:+: directive.text := by
  obtain ⟨hd, href, hargs⟩ := Directive.isReadable_of_ofCommand h hq
  intro hi
  rw [Directive.text_eq, Directive.referenceText_of_isPlain hd.isPlain] at hi
  rcases infix_or_infix_of_not_mem (s := []) (by decide) hi with hi | hi
  · exact absurd hi (by decide)
  · rcases guardedEnd_infix_arguments hi with hi | ⟨t, ht, hi⟩
    · exact hg (hi.trans href)
    · exact hg (hi.trans (hargs t ht))

/-! ## Reading the echo -/

theorem beginMark_eq : beginMark = '<' :: beginMark.tail := by decide

theorem beginLine_eq (directive : Directive) (eol : Text) :
    beginLine directive eol = beginLine directive [] ++ eol := by
  simp [beginLine]

theorem trim_beginLine (directive : Directive) :
    Text.trim (beginLine directive []) = beginLine directive [] := by
  have h : beginLine directive [] =
      '<' :: (beginMark.tail ++ ' ' :: guardEnds directive.text ++ [' ', '-', '-'] ++ ['>']) := by
    rw [beginLine, beginMark_eq, commentEnd_eq]
    simp
  rw [h]
  exact Text.trim_of_ends (by decide) (by decide)

theorem directiveOf?_append_of_blank {line blanks : Text} (h : ∀ c ∈ blanks, Text.isBlank c = true) :
    directiveOf? (line ++ blanks) = directiveOf? line := by
  simp only [directiveOf?, echo?, Text.trim_append_of_blank h]

theorem isFenced_append_of_blank {line blanks : Text} (h : ∀ c ∈ blanks, Text.isBlank c = true) :
    isFenced (line ++ blanks) = isFenced line := by
  simp only [isFenced, directiveOf?_append_of_blank h]

theorem isEndless_append_of_blank {line blanks : Text} (h : ∀ c ∈ blanks, Text.isBlank c = true) :
    isEndless (line ++ blanks) = isEndless line := by
  simp only [isEndless, echo?, Text.trim_append_of_blank h]

/-- What a line echoes is the command of its directive, with its own guarded ends taken off. -/
theorem echo?_beginLine_eq (directive : Directive) :
    echo? (beginLine directive []) = some (unguardEnds ([' '] ++ directive.text ++ [' '])) := by
  have hafter : Text.after? beginMark (beginLine directive []) =
      some (' ' :: guardEnds directive.text ++ ' ' :: commentEnd) := by
    simp [Text.after?, beginLine]
  have hbefore : Text.before? commentEnd (' ' :: guardEnds directive.text ++ ' ' :: commentEnd) =
      some (' ' :: guardEnds directive.text ++ [' ']) := by
    simp [Text.before?]
  have hguard : guardEnds ([' '] ++ directive.text ++ [' ']) =
      ' ' :: guardEnds directive.text ++ [' '] := by
    rw [guardEnds_concat (by decide), List.singleton_append,
      guardEnds.eq_3 ' ' _ fun _ hc => absurd hc (by decide)]
  simp only [echo?, trim_beginLine, hafter, hbefore, Option.map_some]
  rw [← hguard, unguardEnds_guardEnds]

theorem echo?_beginLine {directive : Directive} (h : ¬ guardedEnd <:+: directive.text) :
    echo? (beginLine directive []) = some ([' '] ++ directive.text ++ [' ']) := by
  have hinfix : ¬ guardedEnd <:+: [' '] ++ directive.text ++ [' '] := by
    intro hi
    rcases infix_or_infix_of_not_mem (by decide) hi with hi | hi
    · rcases infix_or_infix_of_not_mem (s := []) (by decide) hi with hi | hi
      · exact absurd hi (by decide)
      · exact h hi
    · exact absurd hi (by decide)
  rw [echo?_beginLine_eq, unguardEnds_of_not_infix hinfix]

/-- The directive is read back from the line that begins its block. -/
theorem directiveOf?_beginLine {directive : Directive} (hd : directive.IsReadable)
    (hg : ¬ guardedEnd <:+: directive.text) :
    directiveOf? (beginLine directive []) = some directive := by
  have hspace : ∀ c ∈ [' '], Lexeme.isSeparator c = true := List.forall_mem_singleton.mpr rfl
  have h := hd.ofCommand_text hspace hspace
  simp only [directiveOf?, echo?_beginLine hg, Option.bind_some, h]
  rfl

/-- A block has a fence, to its reader, unless its directive asks for none by itself. -/
theorem isFenced_beginLine {directive : Directive} (hd : directive.IsReadable)
    (hg : ¬ guardedEnd <:+: directive.text) :
    isFenced (beginLine directive []) = true ↔ directive.language ≠ some unfencedLanguage := by
  simp [isFenced, directiveOf?_beginLine hd hg]

/-! ## Echoes that are read to their end -/

theorem unguardEnds_append_cons {c : Char} (hc : c ∉ guardedEnd) (s t : Text) :
    unguardEnds (s ++ c :: t) = unguardEnds s ++ c :: unguardEnds t := by
  have hc' : c ≠ '-' ∧ c ≠ '\\' ∧ c ≠ '>' := by simpa [guardedEnd, and_assoc] using hc
  fun_induction unguardEnds s with
  | case1 => exact unguardEnds_cons hc'.1 t
  | case2 rest ih => simp [unguardEnds, ih]
  | case3 d rest hend ih =>
      rw [List.cons_append, unguardEnds.eq_3 d, ih]
      · rfl
      · intro x hd hx
        match rest, hx with
        | [], hx => exact hc'.1 (List.cons.inj hx).1
        | [_], hx => exact hc'.2.1 (by simp_all)
        | [_, _], hx => exact hc'.2.2 (by simp_all)
        | _ :: _ :: _ :: rest, hx => exact hend rest hd (by simp_all)

/-- What is written in quotes has a backslash only before a backslash or a quote. -/
theorem encode_append_ne_guardedEnd (t rest x : Text) :
    Quoted.encode t ++ '"' :: rest ≠ '-' :: '\\' :: '>' :: x := by
  have hescape : ∀ t, Quoted.encode t ++ '"' :: rest ≠ '\\' :: '>' :: x := by
    intro t h
    match t, h with
    | [], h => exact absurd (List.cons.inj h).1 (by decide)
    | c :: t, h =>
        by_cases hc : c = '\\' ∨ c = '"'
        · simp only [Quoted.encode_cons, if_pos hc, List.cons_append, List.nil_append] at h
          have hsecond := (List.cons.inj (List.cons.inj h).2).1
          rcases hc with rfl | rfl <;> exact absurd hsecond (by decide)
        · simp only [Quoted.encode_cons, if_neg hc, List.cons_append, List.nil_append] at h
          exact hc (Or.inl (List.cons.inj h).1)
  intro h
  match t, h with
  | [], h => exact absurd (List.cons.inj h).1 (by decide)
  | c :: t, h =>
      by_cases hc : c = '\\' ∨ c = '"'
      · simp only [Quoted.encode_cons, if_pos hc, List.cons_append, List.nil_append] at h
        exact absurd (List.cons.inj h).1 (by decide)
      · simp only [Quoted.encode_cons, if_neg hc, List.cons_append, List.nil_append] at h
        exact hescape t (List.cons.inj h).2

theorem unguardEnds_encode_append (reference rest : Text) :
    unguardEnds (Quoted.encode reference ++ '"' :: rest) =
      Quoted.encode reference ++ '"' :: unguardEnds rest := by
  induction reference with
  | nil => exact unguardEnds_cons (by decide) rest
  | cons c t ih =>
      by_cases hc : c = '\\' ∨ c = '"'
      · have hdash : c ≠ '-' := by rcases hc with rfl | rfl <;> decide
        simp only [Quoted.encode_cons, if_pos hc, List.cons_append, List.nil_append]
        rw [unguardEnds_cons (by decide), unguardEnds_cons hdash, ih]
      · simp only [Quoted.encode_cons, if_neg hc, List.cons_append, List.nil_append]
        rw [unguardEnds.eq_3 c _ fun x _ => encode_append_ne_guardedEnd t rest x, ih]

theorem unguardEnds_subset (t : Text) : unguardEnds t ⊆ t := by
  fun_induction unguardEnds t with
  | case1 => exact List.Subset.refl _
  | case2 rest ih =>
      refine List.cons_subset_cons _ (List.cons_subset_cons _ (List.subset_cons_of_subset _ ?_))
      exact List.cons_subset_cons _ ih
  | case3 c rest _ ih => exact List.cons_subset_cons _ ih

/-- The echo of a directive is read to its end. -/
theorem halts_unguardEnds {directive : Directive} (h : directive.reference ≠ []) :
    Command.Halts (unguardEnds ([' '] ++ directive.text ++ [' '])) := by
  obtain ⟨x, rest, hx, htext⟩ : ∃ x rest, (x = ' ' ∨ x = ')') ∧
      [' '] ++ directive.text ++ [' '] =
        ' ' :: '(' :: (Directive.referenceText directive.reference ++ x :: rest) := by
    rw [Directive.text_eq]
    cases directive.arguments with
    | nil => exact ⟨')', [' '], Or.inr rfl, by simp⟩
    | cons t args =>
        exact ⟨' ', t.text ++ (args.flatMap (fun t => ' ' :: t.text) ++ [')', ' ']), Or.inl rfl,
          by simp⟩
  have hends : Lexeme.Ends (x :: unguardEnds rest) := by
    rcases hx with rfl | rfl
    · exact Lexeme.ends_space _
    · exact Lexeme.ends_closeParen _
  have hguard : x ∉ guardedEnd := by rcases hx with rfl | rfl <;> decide
  have hspace : ∀ c ∈ [' '], Lexeme.isSeparator c = true := List.forall_mem_singleton.mpr rfl
  rw [htext, unguardEnds_cons (by decide), unguardEnds_cons (by decide), Command.Halts, Command.tokens,
    ← List.singleton_append, Directive.tokensFrom_outside_separators hspace,
    Directive.tokensFrom_openParen, Ne, map_eq_error_iff]
  unfold Directive.referenceText
  split
  · rw [List.append_assoc, List.cons_append, unguardEnds_cons (by decide), List.singleton_append,
      unguardEnds_encode_append, Command.tokensFrom_quoted _ (Quoted.isQuotedBody_encode _)]
    split
    · rw [map_eq_error_iff]
      exact Command.tokensFrom_ne_endless (by trivial) _ _
    · simp
  · next hb =>
      have hblank : ∀ c ∈ directive.reference, Text.isBlank c = false := by simpa using hb
      obtain ⟨c, r, hr⟩ := List.exists_cons_of_ne_nil h
      have hne : unguardEnds directive.reference ≠ [] := by
        obtain ⟨y, hy⟩ := exists_unguardEnds_cons c r
        simp [hr, hy]
      rw [unguardEnds_append_cons hguard]
      exact Command.tokensFrom_reference_append_ne_endless hne
        (fun c hc => hblank c (unguardEnds_subset _ hc)) hends _

theorem isEndless_eq_true_iff {line : Text} :
    isEndless line = true ↔ ∃ command, echo? line = some command ∧ ¬ Command.Halts command := by
  simp only [← Directive.ofCommand_eq_endless_iff]
  unfold isEndless
  split
  · next h =>
      obtain ⟨command, he, hc⟩ := Option.map_eq_some_iff.mp h
      exact iff_of_true rfl ⟨command, he, hc⟩
  · next h =>
      refine iff_of_false Bool.false_ne_true ?_
      rintro ⟨command, he, hc⟩
      exact h (by rw [he, Option.map_some, hc])

/-! ## Lines that are read back -/

/-- The echo is a command whose reference stands without quotes, as that of the directive does. -/
theorem quotesReference_unguardEnds {directive : Directive} (hd : directive.IsReadable) :
    Directive.quotesReference (unguardEnds ([' '] ++ directive.text ++ [' '])) = false := by
  obtain ⟨c, r, hr⟩ := List.exists_cons_of_ne_nil hd.reference_ne_nil
  have hplain := Lexeme.isPlain_iff.mp (hd.isPlain c (by simp [hr]))
  have hquote : c ≠ '"' := fun hc => hd.head? (by simp [hr, hc])
  obtain ⟨x, hx⟩ := exists_unguardEnds_cons c
    (r ++ (directive.arguments.flatMap (fun t => ' ' :: t.text) ++ [')']) ++ [' '])
  have htext : unguardEnds ([' '] ++ directive.text ++ [' ']) = ' ' :: '(' :: c :: x := by
    rw [Directive.text_eq, Directive.referenceText_of_isPlain hd.isPlain, hr]
    simp only [List.cons_append, List.nil_append, List.append_assoc] at hx ⊢
    rw [unguardEnds_cons (by decide), unguardEnds_cons (by decide), hx]
  have hopen : Text.trimStart (' ' :: '(' :: c :: x) = '(' :: c :: x :=
    Text.trimStart_append_cons (by decide) [' '] _
  have hstart : Text.trimStart (c :: x) = c :: x := Text.trimStart_append_cons hplain.1 [] x
  rw [htext]
  simp [Directive.quotesReference, hopen, hstart, hquote]

theorem exists_beginLine_eq (directive : Directive) (eol : Text) :
    ∃ front, beginLine directive eol = front ++ commentEnd ++ eol ∧
      ¬ commentEnd <:+: front ++ ['-', '-'] := by
  refine ⟨beginMark ++ ' ' :: guardEnds directive.text ++ [' '], by simp [beginLine], ?_⟩
  intro hi
  rw [List.append_assoc] at hi
  rcases infix_or_infix_of_not_mem (by decide) hi with hi | hi
  · rcases infix_or_infix_of_not_mem (by decide) hi with hi | hi
    · exact absurd hi (by decide)
    · exact not_commentEnd_infix_guardEnds _ hi
  · exact absurd hi (by decide)

/-- The comment ends where the line does, and nowhere before. -/
theorem eq_of_beginLine_eq_append {directive : Directive} {eol before after : Text}
    (he : Text.IsEol eol) (h : beginLine directive eol = before ++ commentEnd ++ after) :
    after = eol := by
  obtain ⟨front, hfront, hno⟩ := exists_beginLine_eq directive eol
  have hend : '>' ∉ eol := by rcases he with rfl | rfl <;> decide
  rw [hfront, commentEnd_eq] at h
  have h' : (front ++ ['-', '-']) ++ '>' :: eol = (before ++ ['-', '-']) ++ '>' :: after := by
    simpa using h
  rcases List.append_eq_append_iff.mp h' with ⟨z, hz, hrest⟩ | ⟨z, hz, hrest⟩
  · cases z with
    | nil => exact (List.cons.inj hrest).2.symm
    | cons c z =>
        obtain ⟨-, rfl⟩ := List.cons.inj hrest
        exact absurd (List.mem_append_right z List.mem_cons_self) hend
  · cases z with
    | nil => exact (List.cons.inj hrest).2
    | cons c z =>
        obtain ⟨rfl, -⟩ := List.cons.inj hrest
        refine absurd ⟨before, z, ?_⟩ hno
        rw [hz, commentEnd_eq]
        simp

/-- The line that begins the block of a directive from a command without quotes ends its comment at its
own end and nowhere before, and the directive is read back from it if and only if the command that
writes the directive holds no guarded end of its own. -/
theorem directiveOf?_beginLine_iff {command : Text} {directive : Directive}
    (h : Directive.ofCommand command = .ok directive)
    (hq : Directive.quotesReference command = false) {eol : Text} (he : Text.IsEol eol) :
    (∃ front, beginLine directive eol = front ++ commentEnd ++ eol) ∧
      (∀ before after, beginLine directive eol = before ++ commentEnd ++ after → after = eol) ∧
      (directiveOf? (beginLine directive eol) = some directive ↔
        ¬ guardedEnd <:+: directive.text) := by
  have hd := (Directive.isReadable_of_ofCommand h hq).1
  obtain ⟨front, hfront, -⟩ := exists_beginLine_eq directive eol
  refine ⟨⟨front, hfront⟩, fun before after => eq_of_beginLine_eq_append he, ?_⟩
  rw [beginLine_eq, directiveOf?_append_of_blank he.isBlank]
  constructor
  · intro hback
    -- The echo has lost its guarded ends, so a directive that is read off it is written without them.
    rw [directiveOf?, echo?_beginLine_eq, Option.bind_some] at hback
    have hagain : Directive.ofCommand (unguardEnds ([' '] ++ directive.text ++ [' '])) =
        .ok directive := by
      cases hc : Directive.ofCommand (unguardEnds ([' '] ++ directive.text ++ [' '])) with
      | error fault =>
          rw [hc] at hback
          cases hback
      | ok directive' =>
          rw [hc] at hback
          cases hback
          rfl
    exact not_guardedEnd_infix_text hagain (quotesReference_unguardEnds hd)
      (not_guardedEnd_infix_unguardEnds _)
  · exact directiveOf?_beginLine hd

theorem directiveOf?_beginLine_iff_guarded :
    let plain := "(a--->b.go none /-->/ $)".toList
    let guarded := "(a.go /--\\>/)".toList
    Directive.quotesReference plain = false ∧ Directive.quotesReference guarded = false ∧
      Text.IsEol ['\r', '\n'] ∧
      (∃ directive, Directive.ofCommand plain = .ok directive ∧
        directiveOf? (beginLine directive ['\r', '\n']) = some directive) ∧
      ∃ directive, Directive.ofCommand guarded = .ok directive ∧
        directiveOf? (beginLine directive ['\r', '\n']) ≠ some directive := by
  intro plain guarded
  have hp : Directive.quotesReference plain = false := by decide +kernel
  have hg : Directive.quotesReference guarded = false := by decide +kernel
  have he : Text.IsEol ['\r', '\n'] := Or.inr rfl
  have hplain : (Directive.ofCommand plain).map Directive.text = .ok plain := by decide +kernel
  have hguarded : (Directive.ofCommand guarded).map Directive.text = .ok guarded := by decide +kernel
  refine ⟨hp, hg, he, ?_, ?_⟩
  · obtain ⟨directive, h, ht⟩ := exists_of_map_eq_ok hplain
    have hno : ¬ guardedEnd <:+: directive.text := ht ▸ by decide +kernel
    exact ⟨directive, h, (directiveOf?_beginLine_iff h hp he).2.2.mpr hno⟩
  · obtain ⟨directive, h, ht⟩ := exists_of_map_eq_ok hguarded
    have hinfix : guardedEnd <:+: directive.text := ht ▸ by decide +kernel
    exact ⟨directive, h, fun hback => (directiveOf?_beginLine_iff h hg he).2.2.mp hback hinfix⟩

end Transclude.Block
