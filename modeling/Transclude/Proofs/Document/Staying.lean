import Transclude.Proofs.Document.Calls
import Transclude.Proofs.Files.Current

/-!
# References that stay

A reference may pass through the directory where it begins any number of times. It leads to the same file as
the name at its end, but its path gets longer each time, until it can be followed no more
(`locate_staying`). So a document may be refreshed from a short path of its directory and not from a long
one (`exists_refresh_staying`, `refresh_staying_of_lt`).
-/

namespace Transclude

namespace Path

variable {base name : Text} {names : List Text}

/-! ## Paths -/

/-- The parts of a path without a slash at the end, put together. -/
theorem joinAll_eq (hb : base ≠ []) (hlast : base.getLast? ≠ some '/')
    (hn : ∀ name ∈ names, name ≠ [] ∧ '/' ∉ name) :
    joinAll base names = base ++ names.flatMap ('/' :: ·) := by
  induction names generalizing base with
  | nil => simp [joinAll]
  | cons name rest ih =>
      rw [List.forall_mem_cons] at hn
      obtain ⟨hne, hslash⟩ := hn.1
      have hjoin : join base name = base ++ '/' :: name := by simp [join, hb, hlast]
      have hlast' : (base ++ '/' :: name).getLast? ≠ some '/' := by
        have hend : base ++ '/' :: name = (base ++ ['/']) ++ name := by simp
        rw [hend, List.getLast?_append, List.getLast?_eq_some_getLast hne, Option.some_or]
        exact fun e => hslash (Option.some.inj e ▸ List.getLast_mem hne)
      rw [joinAll, List.foldl_cons, ← joinAll, hjoin, ih (by simp) hlast' hn.2]
      simp

/-- A reference that stays in its directory for `n` names before the last one. -/
def staying (n : Nat) (name : Text) : Text := (List.replicate n ['.', '/']).flatten ++ name

theorem staying_succ (n : Nat) (name : Text) : staying (n + 1) name = ['.'] ++ '/' :: staying n name := by
  simp [staying, List.replicate_succ]

theorem isAbsolute_staying (n : Nat) (h : '/' ∉ name) : isAbsolute (staying n name) = false := by
  cases n with
  | zero => exact beq_false_of_ne fun e => h (List.mem_of_head? (by simpa [staying] using e))
  | succ n =>
      rw [staying_succ]
      rfl

theorem names_staying (n : Nat) (h : '/' ∉ name) :
    Path.names (staying n name) = List.replicate n ['.'] ++ [name] := by
  induction n with
  | zero => simpa [staying] using names_of_not_mem h
  | succ n ih =>
      rw [staying_succ, names_append_slash, names_of_not_mem (by decide), ih]
      rfl

theorem resolve_staying (n : Nat) (hne : name ≠ []) (hslash : '/' ∉ name) (base : Text) :
    resolve base (staying n name) = joinAll base (List.replicate n ['.'] ++ [name]) := by
  have hempty : name.isEmpty = false := by simpa using hne
  rw [resolve_of_relative (isAbsolute_staying n hslash), names_staying n hslash]
  simp [List.filter_append, hempty]

theorem eq_of_mem_names_staying {n : Nat} {other : Text}
    (h : other ∈ List.replicate n ['.'] ++ [name]) : other = ['.'] ∨ other = name := by
  rcases List.mem_append.mp h with h | h
  · exact Or.inl (List.eq_of_mem_replicate h)
  · exact Or.inr (List.mem_singleton.mp h)

theorem utf8Size_flatMap_periods (n : Nat) :
    Text.utf8Size ((List.replicate n ['.']).flatMap ('/' :: ·)) = 2 * n := by
  induction n with
  | zero => rfl
  | succ n ih =>
      have hsize : Text.utf8Size ['/', '.'] = 2 := by decide
      rw [List.replicate_succ, List.flatMap_cons, Text.utf8Size_append, ih, hsize]
      omega

theorem utf8Size_resolve_staying (n : Nat) (hb : base ≠ []) (hlast : base.getLast? ≠ some '/')
    (hne : name ≠ []) (hslash : '/' ∉ name) :
    Text.utf8Size (resolve base (staying n name)) =
      Text.utf8Size base + 2 * n + 1 + Text.utf8Size name := by
  have hnames : ∀ other ∈ List.replicate n ['.'] ++ [name], other ≠ [] ∧ '/' ∉ other := by
    intro other hm
    rcases eq_of_mem_names_staying hm with rfl | rfl
    · decide
    · exact ⟨hne, hslash⟩
  have hsize : '/'.utf8Size = 1 := by decide
  rw [resolve_staying n hne hslash, joinAll_eq hb hlast hnames, List.flatMap_append]
  simp only [Text.utf8Size_append, utf8Size_flatMap_periods, List.flatMap_singleton, Text.utf8Size_cons,
    hsize]
  omega

end Path

namespace FileTree

variable {tree : FileTree} {place : Place}

/-- A reference that stays leads to the file in the directory, unless its path is too long. -/
theorem locate_staying {base name : Text} {links number : Nat} (n : Nat)
    (hr : tree.reach base = .ok ⟨place, links⟩) (hd : tree.node? place = some .directory)
    (hfile : tree.node? (place ++ [name]) = some (.file number)) (hb : base ≠ [])
    (hnul : '\x00' ∉ base ++ name) (hn : IsName name) (hslash : '/' ∉ name) :
    tree.locate (Path.resolve base (Path.staying n name)) =
      if maxPathSize < Text.utf8Size (Path.resolve base (Path.staying n name)) then .error .nameTooLong
      else .ok (place ++ [name]) := by
  have hadvance : tree.advance place (List.replicate n ['.'] ++ [name]) =
      .ok (.arrived (place ++ [name])) := by
    induction n with
    | zero => simp only [List.replicate_zero, List.nil_append, advance, step_of_isName hn hd, hfile]
    | succ n ih => simpa [List.replicate_succ, advance, step, hd] using ih
  have hnames : ∀ other ∈ List.replicate n ['.'] ++ [name], '/' ∉ other := by
    intro other hm
    rcases Path.eq_of_mem_names_staying hm with rfl | rfl
    · decide
    · exact hslash
  have hreach : tree.reach (Path.joinAll base (List.replicate n ['.'] ++ [name])) =
      .ok ⟨place ++ [name], links⟩ := by
    rw [reach_joinAll hb hnames, hr]
    exact walk_of_arrived hadvance
  have hnul' : '\x00' ∉ Path.joinAll base (List.replicate n ['.'] ++ [name]) := by
    rw [Path.mem_joinAll_iff (by decide)]
    simpa using hnul
  have hne := Path.joinAll_ne_nil hb (List.replicate n ['.'] ++ [name])
  rw [Path.resolve_staying n hn.1 hslash]
  simp [locate, hnul', hne, hreach, Except.map]

end FileTree

/-! ## Lines that are written for directives -/

namespace Directive

/-- A line that is written for a directive. -/
def writtenLine (directive : Directive) : Text := tag ++ ' ' :: directive.text ++ ['\n']

theorem IsReadable.ofLine_writtenLine {directive : Directive} (h : directive.IsReadable) :
    ofLine directive.writtenLine = .ok (some directive) := by
  have htrim : Text.trim directive.writtenLine = tag ++ ' ' :: directive.text := by
    have hends := Text.trim_of_ends (a := '[') (z := ')') (t := tag.tail ++ ' ' :: directive.text.dropLast)
      (by decide) (by decide)
    have htext : directive.text.dropLast ++ [')'] = directive.text := by
      rw [text, List.dropLast_concat]
    have htag : tag = '[' :: tag.tail := by decide
    rw [writtenLine, Text.trim_append_of_blank (Text.IsEol.isBlank (Or.inl rfl)), htag]
    simpa [htext] using hends
  have hcommand : commandOf? directive.writtenLine = some ([' '] ++ directive.text ++ []) := by
    rw [commandOf?, htrim]
    simp [Text.after?]
  have hspace : ∀ c ∈ [' '], Lexeme.isSeparator c = true := List.forall_mem_singleton.mpr rfl
  simp only [ofLine, hcommand, h.ofCommand_text hspace (List.forall_mem_nil _)]
  rfl

theorem IsReadable.lines_writtenLine {directive : Directive} (h : directive.IsReadable) :
    Text.lines directive.writtenLine = [directive.writtenLine] := by
  have hn : '\n' ∉ tag ++ ' ' :: directive.text := by
    have htag : '\n' ∉ tag := by decide
    simp [htag, h.newline_not_mem_text]
  exact Text.IsFull.lines ⟨_, hn, rfl⟩

/-- The directive for the whole of the file `a`, by a reference that stays. -/
def staying (n : Nat) : Directive := ⟨Path.staying n ['a'], some "go".toList, .whole⟩

theorem isReadable_staying (n : Nat) : (staying n).IsReadable where
  reference_ne_nil := by simp [staying, Path.staying]
  isPlain c hc := by
    have hmem : c = '.' ∨ c = '/' ∨ c = 'a' := by
      rcases List.mem_append.mp hc with hc | hc
      · obtain ⟨piece, hp, hc⟩ := List.mem_flatten.mp hc
        obtain rfl := List.eq_of_mem_replicate hp
        simpa [or_assoc] using Or.inl hc
      · simpa using Or.inr (Or.inr hc)
    rcases hmem with rfl | rfl | rfl <;> decide
  head? := by
    cases n with
    | zero => decide
    | succ n => simp [staying, Path.staying_succ]
  isArgument t ht := by
    obtain rfl : t = .word ['g', 'o'] := by simpa [staying, arguments, Selection.arguments] using ht
    exact ⟨by decide, List.forall_mem_cons.mpr ⟨by decide, List.forall_mem_singleton.mpr (by decide)⟩⟩
  hasLanguage := Or.inl rfl

end Directive

/-- A directory with a document and the file `a` beside it. -/
def FileTree.besides (document : Bytes) : FileTree :=
  ofFiles ["tmp".toList, "work".toList] [
    (['a'], Text.encode (Text.ofLines ["x"])),
    ("doc.md".toList, document)]

theorem FileTree.current_besides (document : Bytes) :
    (besides document).current = ["tmp".toList, "work".toList] := rfl

theorem FileTree.currentPath_besides (document : Bytes) :
    (besides document).currentPath = "/tmp/work".toList := by
  rw [currentPath, current_besides]
  decide

theorem FileTree.hasCurrent_besides (document : Bytes) : (besides document).HasCurrent := by
  refine ⟨rooted_ofFiles (by decide) (by decide) _, ?_, ?_, ?_⟩ <;>
    · rw [current_besides]
      decide

theorem FileTree.node?_besides (document : Bytes) :
    (besides document).node? ["tmp".toList, "work".toList, ['a']] = some (.file 0) ∧
      (besides document).content 0 = .ok (Text.encode (Text.ofLines ["x"])) :=
  ⟨rfl, rfl⟩

theorem FileTree.file?_besides (document : Bytes) :
    (besides document).file? "doc.md".toList = some 1 ∧ (besides document).content 1 = .ok document :=
  ⟨rfl, rfl⟩

theorem Reference.isRemote_staying (n : Nat) : isRemote (Path.staying n ['a']) = false := by
  cases n with
  | zero => decide
  | succ n =>
      rw [Path.staying_succ]
      rfl

/-- The file beside the document is reached as long as the path of the reference is short enough. -/
theorem FileTree.fetcher_besides {base : Text} {links : Nat} (document : Bytes) (network : Network)
    (options : FetchOptions) (n : Nat)
    (hr : (besides document).reach base = .ok ⟨["tmp".toList, "work".toList], links⟩) (hb : base ≠ [])
    (hnul : '\x00' ∉ base ++ ['a']) (hlast : base.getLast? ≠ some '/') :
    (besides document).fetcher network options base (Path.staying n ['a']) =
      if maxPathSize < Text.utf8Size base + 2 * n + 2 then
        .error (.ofCause (.fetch (Path.staying n ['a']) (.file .nameTooLong)))
      else .ok (Text.encode (Text.ofLines ["x"])) := by
  have hd := (hasCurrent_besides document).rooted _ (List.prefix_refl _)
  obtain ⟨hnode, hcontent⟩ := node?_besides document
  have hlocate := locate_staying n hr hd hnode hb hnul (by decide) (by decide)
  have hname : Text.utf8Size ['a'] = 1 := by decide
  rw [Path.utf8Size_resolve_staying n hb hlast (by decide) (by decide), hname] at hlocate
  rw [fetcher, contentAt_of_local _ _ _ _ (Reference.isRemote_staying n)]
  by_cases hlong : maxPathSize < Text.utf8Size base + 2 * n + 2
  · rw [if_pos hlong] at hlocate ⊢
    simp only [read, find, hlocate, Except.mapError]
  · rw [if_neg hlong] at hlocate ⊢
    have hfile : (besides document).node? (["tmp".toList, "work".toList] ++ [['a']]) = _ := hnode
    simp only [read, find, hlocate, hfile, contentOf, hcontent, Except.mapError]

theorem Document.refresh_of_embed_error {fetch : Fetcher} {base document line : Text}
    {directive : Directive} {failure : Failure} (hlines : Text.lines document = [line])
    (hd : Directive.ofLine line = .ok (some directive))
    (he : Sources.embed ⟨fetch, base, {}⟩ directive (Text.lineEnding line) = .error failure) :
    (refresh fetch base {} document).result = .error (.atLine 1 failure) := by
  rw [refresh, parts_of_ofLine hlines hd]
  simp only [refreshParts, he, Outcome.after]
  rfl

/-- A document with a directive whose reference stays can be refreshed if its path is short enough. -/
theorem Document.exists_refresh_staying {base : Text} {links : Nat} (document : Bytes) (network : Network)
    (options : FetchOptions) (n : Nat)
    (hr : (FileTree.besides document).reach base = .ok ⟨["tmp".toList, "work".toList], links⟩)
    (hb : base ≠ []) (hnul : '\x00' ∉ base ++ ['a']) (hlast : base.getLast? ≠ some '/')
    (hshort : Text.utf8Size base + 2 * n + 2 ≤ FileTree.maxPathSize) :
    ∃ updated, (refresh ((FileTree.besides document).fetcher network options) base {}
      (Directive.staying n).writtenLine).result = .ok updated := by
  have hd := Directive.isReadable_staying n
  have hf := FileTree.fetcher_besides document network options n hr hb hnul hlast
  rw [if_neg (Nat.not_lt.mpr hshort)] at hf
  have hcontent : Sources.content ⟨(FileTree.besides document).fetcher network options, base, {}⟩
      (Directive.staying n).reference = .ok (Text.ofLines ["x"]) := by
    simp only [Sources.content, Directive.staying, hf, Text.decode?_encode]
  have he := Sources.embed_of_whole (Text.lineEnding (Directive.staying n).writtenLine) rfl
    (Languages.resolve_of_language {} rfl) hcontent (fun h => absurd h (by decide))
  obtain ⟨updated, hu, -⟩ := exists_output_of_embed hd.lines_writtenLine hd.ofLine_writtenLine he
  exact ⟨updated, hu⟩

theorem Document.refresh_staying_of_lt {base : Text} {links : Nat} (document : Bytes) (network : Network)
    (options : FetchOptions) (n : Nat)
    (hr : (FileTree.besides document).reach base = .ok ⟨["tmp".toList, "work".toList], links⟩)
    (hb : base ≠ []) (hnul : '\x00' ∉ base ++ ['a']) (hlast : base.getLast? ≠ some '/')
    (hlong : FileTree.maxPathSize < Text.utf8Size base + 2 * n + 2) :
    (refresh ((FileTree.besides document).fetcher network options) base {}
      (Directive.staying n).writtenLine).result =
        .error (.atLine 1 (.ofCause (.fetch (Path.staying n ['a']) (.file .nameTooLong)))) := by
  have hd := Directive.isReadable_staying n
  have hf := FileTree.fetcher_besides document network options n hr hb hnul hlast
  rw [if_pos hlong] at hf
  have hresolve : Languages.resolve {} (Directive.staying n) = .ok _ :=
    Languages.resolve_of_language {} rfl
  have hcontent : Sources.content ⟨(FileTree.besides document).fetcher network options, base, {}⟩
      (Directive.staying n).reference =
        .error (.ofCause (.fetch (Path.staying n ['a']) (.file .nameTooLong))) := by
    simp only [Sources.content, Directive.staying, hf]
  refine refresh_of_embed_error hd.lines_writtenLine hd.ofLine_writtenLine ?_
  simp only [Sources.embed, hresolve, hcontent]

end Transclude
