import Transclude.Proofs.Command.Reading

/-!
# References in quotes

Between the quotes of a reference an escape is read as one only inside quotes of its own. A text is
escaped as if it stood inside double quotes, where it is read back as it was
(`decodeFrom_encode_double`); between the quotes of a reference it is read back if and only if there
was nothing to escape (`value_encode_eq_ok_iff`).
-/

namespace Transclude

namespace Lexeme

/-- The body of a string in quotes, read from left to right as plain characters and backslash pairs. -/
inductive IsQuotedBody : Text → Prop
  | nil : IsQuotedBody []
  | plain {c : Char} {rest : Text} (h : c ≠ '\\' ∧ c ≠ '"') (hr : IsQuotedBody rest) :
      IsQuotedBody (c :: rest)
  | pair {c : Char} {rest : Text} (h : c ≠ '\n') (hr : IsQuotedBody rest) :
      IsQuotedBody ('\\' :: c :: rest)

theorem IsQuotedBody.quotedBody_append {b : Text} (h : IsQuotedBody b) (rest : Text) :
    quotedBody (b ++ '"' :: rest) = (b, '"' :: rest) := by
  induction h with
  | nil => simp [quotedBody]
  | @plain c b h _ ih =>
      rw [List.cons_append, quotedBody.eq_def]
      split
      · next he => cases he
      · next he => simp at he
      · next he => simp at he; exact absurd he.1 h.1
      · next he =>
          simp only [List.cons.injEq] at he
          obtain ⟨rfl, rfl⟩ := he
          simp [h.2, ih]
  | @pair c b h _ ih =>
      rw [List.cons_append, List.cons_append, quotedBody]
      simp [h, ih]

theorem next_quoted {b : Text} (h : IsQuotedBody b) (rest : Text) :
    next '"' (b ++ '"' :: rest) = (.quoted b, rest) := by
  simp [next, isSeparator, h.quotedBody_append rest]

end Lexeme

namespace Quoted

open Lexeme

/-! ## Escaped texts -/

theorem encode_cons (c : Char) (t : Text) :
    encode (c :: t) = (if c = '\\' ∨ c = '"' then ['\\', c] else [c]) ++ encode t := by
  simp [encode]

theorem isQuotedBody_encode (t : Text) : IsQuotedBody (encode t) := by
  induction t with
  | nil => exact .nil
  | cons c t ih =>
      rw [encode_cons]
      split
      · next hc => exact .pair (by rcases hc with rfl | rfl <;> decide) ih
      · next hc => exact .plain (not_or.mp hc) ih

theorem encode_eq_self {t : Text} (h : '\\' ∉ t ∧ '"' ∉ t) : encode t = t := by
  induction t with
  | nil => rfl
  | cons c t ih =>
      simp only [List.mem_cons, not_or] at h
      have hc : ¬ (c = '\\' ∨ c = '"') := not_or.mpr ⟨Ne.symm h.1.1, Ne.symm h.2.1⟩
      rw [encode_cons, if_neg hc, ih ⟨h.1.2, h.2.2⟩, List.singleton_append]

/-- Inside double quotes an escaped text is read as it was. -/
theorem decodeFrom_encode_double (whole : Text) (index : Nat) (t : Text) :
    decodeFrom whole .double index (encode t) = .ok t := by
  induction t generalizing index with
  | nil => rfl
  | cons c t ih =>
      rw [encode_cons]
      by_cases hb : c = '\\'
      · simp [hb, decodeFrom, escaped?, ih, Except.map]
      by_cases hq : c = '"'
      · simp [hq, decodeFrom, escaped?, ih, Except.map]
      · simp [hb, hq, decodeFrom, ih, Except.map]

/-- What an escaped text is read as outside of double quotes; `single` says whether it stands inside
single quotes. An escape stays there as it is written, and an escaped double quote that stands bare
opens double quotes. -/
def reread (single : Bool) : Text → Text
  | [] => []
  | c :: rest =>
    if c = '\'' then reread (!single) rest
    else if c = '\\' then '\\' :: '\\' :: reread single rest
    else if c = '"' then '\\' :: (if single then '"' :: reread single rest else rest)
    else c :: reread single rest

/-- The mode outside of double quotes. -/
def outerMode (single : Bool) : Mode := if single then .single else .bare

theorem decodeFrom_encode (whole : Text) (single : Bool) (index : Nat) (t : Text) :
    decodeFrom whole (outerMode single) index (encode t) = .ok (reread single t) := by
  induction t generalizing single index with
  | nil => cases single <;> rfl
  | cons c t ih =>
      rw [encode_cons, reread]
      by_cases hs : c = '\''
      · subst hs
        cases single with
        | true => exact ih false (index + 1)
        | false => exact ih true (index + 1)
      have ih := ih single
      by_cases hb : c = '\\'
      · subst hb
        cases single <;> simp_all [outerMode, decodeFrom, Except.map]
      by_cases hq : c = '"'
      · subst hq
        cases single <;> simp_all [outerMode, decodeFrom, decodeFrom_encode_double, Except.map]
      · cases single <;> simp_all [outerMode, decodeFrom, Except.map]

/-- Single quotes are dropped, and none are added. -/
theorem count_reread_le (single : Bool) (t : Text) :
    (reread single t).count '\'' ≤ t.count '\'' := by
  induction t generalizing single with
  | nil => exact Nat.le_refl 0
  | cons c t ih =>
      rw [reread]
      split
      · next hs =>
          have h := ih (!single)
          rw [hs, List.count_cons_self]
          omega
      split
      · next hb => simpa [hb] using ih single
      split
      · next hq =>
          cases single with
          | true => simpa [hq] using ih true
          | false => simp [hq]
      · next hs _ _ => simpa [hs] using ih single

/-- An escape leaves a backslash too many, and no text makes up for it further on. -/
theorem eq_zero_of_append_reread {k : Nat} {t : Text}
    (h : t = List.replicate k '\\' ++ reread false t) : k = 0 ∧ '\\' ∉ t ∧ '"' ∉ t := by
  induction t generalizing k with
  | nil => cases k <;> simp_all [List.replicate_succ]
  | cons c t ih =>
      rw [reread] at h
      by_cases hb : c = '\\'
      · subst hb
        have hmove : ∀ l, List.replicate k '\\' ++ '\\' :: l = List.replicate (k + 1) '\\' ++ l := by
          intro l
          rw [List.replicate_succ', List.append_assoc, List.singleton_append]
        -- The rest of the text would have to make up for one backslash more.
        have hrest : t = List.replicate (k + 1) '\\' ++ reread false t := by
          have h : '\\' :: t = List.replicate k '\\' ++ '\\' :: '\\' :: reread false t := h
          rw [hmove, List.replicate_succ, List.cons_append, hmove] at h
          exact (List.cons.inj h).2
        exact absurd (ih hrest).1 (Nat.succ_ne_zero k)
      cases k with
      | succ k => exact absurd (List.cons.inj h).1 hb
      | zero =>
          rw [List.replicate_zero, List.nil_append, if_neg hb] at h
          refine ⟨rfl, ?_⟩
          split at h
          · next hs =>
              have hcount := count_reread_le true t
              rw [Bool.not_false] at h
              rw [← h, hs, List.count_cons_self] at hcount
              omega
          split at h
          · next hq => exact absurd (List.cons.inj h).1 hb
          · next hq =>
              have hrest := (ih (k := 0) (List.cons.inj h).2).2
              simp [Ne.symm hb, Ne.symm hq, hrest]

/-! ## Values -/

/-- What is read between the quotes of a reference: the text itself, unless it holds a backslash. -/
def value (body : Text) : Except EscapeFault Text :=
  if body.contains '\\' then decode body else .ok body

theorem value_encode (t : Text) :
    value (encode t) = .ok (if '\\' ∈ t ∨ '"' ∈ t then reread false t else t) := by
  have hdecode : decode (encode t) = .ok (reread false t) := decodeFrom_encode _ false 0 t
  have hmem : '\\' ∈ encode t ↔ '\\' ∈ t ∨ '"' ∈ t := by
    simp only [encode, List.mem_flatMap]
    constructor
    · rintro ⟨c, hc, hm⟩
      split at hm
      · next h =>
          rcases h with rfl | rfl
          · exact Or.inl hc
          · exact Or.inr hc
      · next h =>
          obtain rfl := List.mem_singleton.mp hm
          exact absurd (Or.inl rfl) h
    · rintro (h | h)
      · exact ⟨_, h, by simp⟩
      · exact ⟨_, h, by simp⟩
  by_cases h : '\\' ∈ t ∨ '"' ∈ t
  · simp [value, hmem, h, hdecode]
  · have hnone := not_or.mp h
    rw [if_neg h, encode_eq_self hnone]
    simp [value, hnone.1]

/-- A text that is written between quotes is read back as it was if and only if nothing in it had to be
escaped. -/
theorem value_encode_eq_ok_iff {t : Text} : value (encode t) = .ok t ↔ '\\' ∉ t ∧ '"' ∉ t := by
  rw [value_encode, Except.ok.injEq]
  split
  · next h =>
      refine iff_of_false (fun he => ?_) (fun hn => h.elim hn.1 hn.2)
      have hnone := (eq_zero_of_append_reread (k := 0) he.symm).2
      exact h.elim hnone.1 hnone.2
  · next h => simpa using h

/-- A double quote is never the first character that is read: outside of double quotes a backslash
stands before it. -/
theorem head?_ne_of_decodeFrom {whole body v : Text} (hb : IsQuotedBody body) (single : Bool)
    {index : Nat} (h : decodeFrom whole (outerMode single) index body = .ok v) :
    v.head? ≠ some '"' := by
  induction hb generalizing single index v with
  | nil =>
      cases single <;> cases h <;> simp
  | @plain c body hc _ ih =>
      by_cases hs : c = '\''
      · subst hs
        cases single with
        | true => exact ih false h
        | false => exact ih true h
      · have hw : ∃ w, decodeFrom whole (outerMode single) (index + 1) body = .ok w ∧ c :: w = v := by
          cases single with
          | true => exact exists_of_map_eq_ok (by simpa [outerMode, decodeFrom, hs] using h)
          | false => exact exists_of_map_eq_ok (by simpa [outerMode, decodeFrom, hs, hc.2] using h)
        obtain ⟨w, -, rfl⟩ := hw
        simpa using hc.2
  | @pair c body hc _ ih =>
      have hw : ∃ w, decodeFrom whole (outerMode single) (index + 1) (c :: body) = .ok w ∧
          '\\' :: w = v := by
        cases single with
        | true => exact exists_of_map_eq_ok h
        | false => exact exists_of_map_eq_ok h
      obtain ⟨w, -, rfl⟩ := hw
      simp

theorem head?_ne_of_value {body v : Text} (hb : IsQuotedBody body) (h : value body = .ok v) :
    v.head? ≠ some '"' := by
  unfold value at h
  split at h
  · exact head?_ne_of_decodeFrom hb false h
  · next hm =>
      cases h
      cases hb with
      | nil => simp
      | plain hc _ => simpa using hc.2
      | pair _ _ => simp

end Quoted

namespace Command

open Lexeme

/-! ## Reading -/

theorem tokensFrom_quoted (start : Nat) {body : Text} (hb : IsQuotedBody body) (rest : Text) :
    tokensFrom (.reference []) start ('"' :: (body ++ '"' :: rest)) =
      match Quoted.value body with
      | .ok value =>
        (tokensFrom .arguments (start + Text.utf8Size ('"' :: body ++ ['"'])) rest).map
          (wholeToken start (.quoted body) (.reference value) :: ·)
      | .error fault => .error (.badEscape ('"' :: body ++ ['"']) fault) := by
  have hn := next_quoted hb rest
  unfold Quoted.value
  split
  · next value hv =>
      have hstep : Context.step start (next '"' (body ++ '"' :: rest)).1 (.reference []) =
          .ok ⟨[wholeToken start (.quoted body) (.reference value)], .arguments, []⟩ := by
        rw [hn]
        simp only [Context.step, stepReference]
        split at hv
        · next hc => rw [if_pos hc, hv]
        · next hc =>
            cases hv
            rw [if_neg hc]
      rw [tokensFrom_cons hstep]
      simp [hn, Lexeme.text]
  · next fault hv =>
      split at hv
      · next hc =>
          refine tokensFrom_cons_error ?_
          rw [hn]
          simp only [Context.step, stepReference]
          rw [if_pos hc, hv]
          rfl
      · cases hv

end Command

end Transclude
