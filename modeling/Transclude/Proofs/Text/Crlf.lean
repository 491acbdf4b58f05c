import Transclude.Proofs.Text.Lines
import Transclude.Text.Bytes

/-!
# Line feeds behind carriage returns

A text with a carriage return put before each line feed has the lines of the text, each with another
ending (`lines_crlf`), so whatever ignores the ending of a line is the same for both
(`IgnoresEnding.crlf`). The same can be done to the bytes of a text, or to bytes that are none, without
reading them (`decode?_crlf`).
-/

namespace Transclude

namespace Text

/-- The text with a carriage return before each line feed. -/
def crlf (t : Text) : Text := t.flatMap fun c => if c = '\n' then ['\r', '\n'] else [c]

/-! ## Lines -/

theorem crlf_append (s t : Text) : crlf (s ++ t) = crlf s ++ crlf t := List.flatMap_append

theorem crlf_flatten (ls : List Text) : crlf ls.flatten = (ls.map crlf).flatten := by
  induction ls with
  | nil => rfl
  | cons line ls ih => rw [List.flatten_cons, crlf_append, ih, List.map_cons, List.flatten_cons]

theorem crlf_of_not_mem {t : Text} (h : '\n' ∉ t) : crlf t = t := by
  have hsame : crlf t = t.flatMap ([·]) :=
    List.flatMap_congr fun c hc => if_neg fun (e : c = '\n') => h (e ▸ hc)
  rw [hsame, List.flatMap_singleton']

theorem crlf_append_newline {front : Text} (h : '\n' ∉ front) :
    crlf (front ++ ['\n']) = front ++ ['\r', '\n'] := by
  rw [crlf_append, crlf_of_not_mem h]
  rfl

theorem IsFull.crlf {line : Text} (h : IsFull line) : IsFull (crlf line) := by
  obtain ⟨front, hn, rfl⟩ := h
  exact ⟨front ++ ['\r'], by simp [hn], by simp [crlf_append_newline hn]⟩

theorem Lined.map_crlf {ls : List Text} (h : Lined ls) : Lined (ls.map crlf) := by
  induction h with
  | nil => exact .nil
  | last hne hn => exact .last (by rwa [crlf_of_not_mem hn]) (by rwa [crlf_of_not_mem hn])
  | cons hf _ ih => exact .cons hf.crlf ih

theorem lines_crlf (t : Text) : lines (crlf t) = (lines t).map crlf := by
  have ht : crlf t = ((lines t).map crlf).flatten := by rw [← crlf_flatten, flatten_lines]
  rw [ht, lines_flatten (lined_lines t).map_crlf]

/-! ## Line endings -/

/-- What ignores the ending of a line is the same for both endings. -/
theorem IgnoresEnding.crlf {α : Type} {f : Text → α} (hf : IgnoresEnding f) {line : Text}
    (h : IsLine line) : f (crlf line) = f line := by
  rcases h with ⟨front, hn, rfl⟩ | hn
  · rw [crlf_append_newline hn, hf _ (Or.inr rfl), hf _ (Or.inl rfl)]
  · rw [crlf_of_not_mem hn]

theorem IsEol.takeWhile_append {eol : Text} (he : IsEol eol) {p : Char → Bool} (hn : p '\n' = false)
    (hr : p '\r' = false) (t : Text) : (t ++ eol).takeWhile p = t.takeWhile p := by
  have heol : eol.takeWhile p = [] := by
    rcases he with rfl | rfl
    · exact List.takeWhile_cons_of_neg (by simp [hn])
    · exact List.takeWhile_cons_of_neg (by simp [hr])
  rw [List.takeWhile_append, heol, List.append_nil]
  split
  · next h => rw [(List.takeWhile_prefix p).eq_of_length h]
  · rfl

theorem IsEol.dropWhile_append {eol : Text} (he : IsEol eol) {p : Char → Bool} (hn : p '\n' = false)
    (hr : p '\r' = false) (t : Text) : (t ++ eol).dropWhile p = t.dropWhile p ++ eol := by
  have heol : eol.dropWhile p = eol := by
    rcases he with rfl | rfl
    · exact List.dropWhile_cons_of_neg (by simp [hn])
    · exact List.dropWhile_cons_of_neg (by simp [hr])
  rw [List.dropWhile_append, heol]
  split
  · next h => rw [List.isEmpty_iff.mp h, List.nil_append]
  · rfl

theorem lineEnding_of_not_mem {line : Text} (h : '\r' ∉ line) : lineEnding line = ['\n'] := by
  have hcrlf : endsCrlf line = false := by
    rw [Bool.eq_false_iff]
    intro hs
    exact h ((List.isSuffixOf_iff_suffix.mp hs).subset (by simp))
  simp [lineEnding, hcrlf]

theorem IsFull.lineEnding_crlf {line : Text} (h : IsFull line) :
    lineEnding (Text.crlf line) = ['\r', '\n'] := by
  obtain ⟨front, hn, rfl⟩ := h
  have hcrlf : endsCrlf (front ++ ['\r', '\n']) = true :=
    List.isSuffixOf_iff_suffix.mpr (List.suffix_append _ _)
  rw [crlf_append_newline hn, lineEnding, if_pos hcrlf]

theorem IsLine.completeLine_crlf {line : Text} (h : IsLine line) :
    Text.completeLine ['\r', '\n'] (crlf line) = crlf (Text.completeLine ['\n'] line) := by
  rcases h with hf | hn
  · rw [completeLine_of_isFull hf, completeLine_of_isFull hf.crlf]
  · rw [crlf_of_not_mem hn, Text.completeLine, Text.completeLine, endsLine_eq_false hn]
    exact (crlf_append_newline hn).symm

theorem stripLineEnding_append_newline {front : Text} (h : front.getLast? ≠ some '\r') :
    stripLineEnding (front ++ ['\n']) = front := by
  simp [stripLineEnding, h]

theorem stripLineEnding_append_crlf (front : Text) : stripLineEnding (front ++ ['\r', '\n']) = front := by
  have he : front ++ ['\r', '\n'] = (front ++ ['\r']) ++ ['\n'] := by simp
  rw [he, stripLineEnding, List.getLast?_concat, if_pos rfl, List.dropLast_concat]
  simp

/-- A line without carriage returns is stripped alike in both endings. -/
theorem IsLine.stripLineEnding_crlf {line : Text} (h : IsLine line) (hcr : '\r' ∉ line) :
    stripLineEnding (crlf line) = stripLineEnding line := by
  rcases h with ⟨front, hn, rfl⟩ | hn
  · have hlast : front.getLast? ≠ some '\r' := fun he =>
      hcr (List.mem_append_left _ (List.mem_of_getLast? he))
    rw [crlf_append_newline hn, stripLineEnding_append_crlf, stripLineEnding_append_newline hlast]
  · rw [crlf_of_not_mem hn]

end Text

/-! ## Bytes -/

/-- The bytes with that of a carriage return before each that is a line feed. -/
def Bytes.crlf (bytes : Bytes) : Bytes :=
  (bytes.data.toList.flatMap fun b => if b = 10 then [13, 10] else [b]).toByteArray

/-- The bytes without those of carriage returns. -/
def Bytes.dropReturns (bytes : Bytes) : Bytes :=
  (bytes.data.toList.filter (· != 13)).toByteArray

namespace Text

theorem encode_eq (t : Text) : encode t = (t.flatMap String.utf8EncodeChar).toByteArray := by
  rw [encode, String.toUTF8_eq_toByteArray, String.toByteArray_ofList]
  rfl

theorem eq_encode_of_decode? {bytes : Bytes} {t : Text} (h : decode? bytes = some t) :
    bytes = encode t := by
  obtain ⟨s, hs, rfl⟩ := Option.map_eq_some_iff.mp h
  unfold String.fromUTF8? at hs
  split at hs
  · cases hs
    rw [encode, String.ofList_toList, String.toUTF8_eq_toByteArray]
    rfl
  · cases hs

/-- A byte that is the number of a character of ASCII stands for that character and is part of no
other. -/
theorem toNat_eq_of_mem_utf8EncodeChar {c : Char} {b : UInt8} (hb : b.toNat < 128)
    (h : b ∈ String.utf8EncodeChar c) : c.toNat = b.toNat := by
  have hc : c.toNat = c.val.toNat := rfl
  have hbyte : ∀ n, (UInt8.ofNat n).toNat = n % 256 := fun n => UInt8.toNat_ofNat'
  by_cases hascii : c.val.toNat ≤ 0x7f
  · simp only [String.utf8EncodeChar, if_pos hascii, List.mem_singleton] at h
    rw [hc, h, hbyte]
    omega
  · -- The bytes of a longer character have their highest bit set.
    exfalso
    have hhigh : ∀ n, 128 ≤ n % 256 → b ≠ UInt8.ofNat n := by
      rintro n hn rfl
      rw [hbyte] at hb
      omega
    simp only [String.utf8EncodeChar, if_neg hascii] at h
    split at h
    · simp only [List.mem_cons, List.not_mem_nil, or_false] at h
      rcases h with h | h <;> exact hhigh _ (by omega) h
    split at h
    · simp only [List.mem_cons, List.not_mem_nil, or_false] at h
      rcases h with h | h | h <;> exact hhigh _ (by omega) h
    · simp only [List.mem_cons, List.not_mem_nil, or_false] at h
      rcases h with h | h | h | h <;> exact hhigh _ (by omega) h

theorem utf8EncodeChar_flatMap_crlf (c : Char) :
    ((String.utf8EncodeChar c).flatMap fun b => if b = 10 then [13, 10] else [b]) =
      (if c = '\n' then ['\r', '\n'] else [c]).flatMap String.utf8EncodeChar := by
  by_cases hc : c = '\n'
  · subst hc
    decide
  · rw [if_neg hc, List.flatMap_singleton]
    have hsame : ∀ b ∈ String.utf8EncodeChar c,
        (if b = 10 then [13, 10] else [b]) = [b] := by
      intro b hb
      refine if_neg ?_
      rintro rfl
      exact hc (Char.toNat_inj.mp (toNat_eq_of_mem_utf8EncodeChar (by decide) hb))
    rw [List.flatMap_congr hsame, List.flatMap_singleton']

theorem crlf_encode (t : Text) : Bytes.crlf (encode t) = encode (crlf t) := by
  rw [Bytes.crlf, encode_eq, encode_eq, List.toList_data_toByteArray, crlf, List.flatMap_assoc,
    List.flatMap_assoc]
  simp only [utf8EncodeChar_flatMap_crlf]

theorem dropReturns_encode (t : Text) : Bytes.dropReturns (encode t) = encode (t.filter (· != '\r')) := by
  rw [Bytes.dropReturns, encode_eq, encode_eq, List.toList_data_toByteArray]
  congr 1
  induction t with
  | nil => rfl
  | cons c t ih =>
      rw [List.flatMap_cons, List.filter_append, ih]
      by_cases hc : c = '\r'
      · subst hc
        rfl
      · have hkeep : (String.utf8EncodeChar c).filter (· != 13) = String.utf8EncodeChar c := by
          rw [List.filter_eq_self]
          intro b hb
          rw [bne_iff_ne]
          rintro rfl
          exact hc (Char.toNat_inj.mp (toNat_eq_of_mem_utf8EncodeChar (by decide) hb))
        rw [hkeep, List.filter_cons_of_pos (by simpa using hc), List.flatMap_cons]

theorem dropReturns_crlf {bytes : Bytes} (h : 13 ∉ bytes.data.toList) :
    Bytes.dropReturns (Bytes.crlf bytes) = bytes := by
  have hfilter : ∀ l : List UInt8, 13 ∉ l →
      (l.flatMap fun b => if b = 10 then [13, 10] else [b]).filter (· != 13) = l := by
    intro l hl
    induction l with
    | nil => rfl
    | cons b l ih =>
        have hb : b ≠ 13 := fun e => hl (by simp [e])
        rw [List.flatMap_cons, List.filter_append, ih fun hm => hl (List.mem_cons_of_mem _ hm)]
        split
        · next he => simp [he]
        · simp [hb]
  rw [Bytes.dropReturns, Bytes.crlf, List.toList_data_toByteArray, hfilter _ h]
  exact ByteArray.ext (by rw [List.data_toByteArray, Array.toArray_toList])

/-- Bytes without carriage returns are a text if and only if they are one with carriage returns put
before the line feeds. -/
theorem decode?_crlf {bytes : Bytes} (h : 13 ∉ bytes.data.toList) :
    decode? (Bytes.crlf bytes) = (decode? bytes).map crlf := by
  cases hd : decode? bytes with
  | some t =>
      obtain rfl := eq_encode_of_decode? hd
      rw [crlf_encode, decode?_encode, Option.map_some]
  | none =>
      rw [Option.map_none, Option.eq_none_iff_forall_ne_some]
      intro u hu
      have hbytes : bytes = encode (u.filter (· != '\r')) := by
        rw [← dropReturns_encode, ← eq_encode_of_decode? hu, dropReturns_crlf h]
      rw [hbytes, decode?_encode] at hd
      cases hd

end Text

end Transclude
