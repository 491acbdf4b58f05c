import Transclude.Proofs.Cli.Batch
import Transclude.Proofs.Document.Staying
import Transclude.Proofs.Language

/-!
# One document in every mode

A document of the current directory should have one text, whether it is read from its file or from
standard input (`refresh_currentPath`). So the runs that print it, read it from standard input, write it and
compare it all fail, or they all get to that text, or none of them ends (`run_modes_agree`).
-/

namespace Transclude

theorem Path.parent_of_not_mem {path : Text} (h : '/' ∉ path) : Path.parent path = ['.'] := by
  unfold Path.parent
  split
  · rfl
  · next hcut =>
    obtain ⟨rfl, -⟩ := Text.eq_of_cutLast? hcut
    simp at h
  · next hcut =>
    obtain ⟨rfl, -⟩ := Text.eq_of_cutLast? hcut
    simp at h

/-- The references of a document lead to files, and they can be followed from the current directory's own
path just where they can be from a period. -/
def FileTree.Followed (tree : FileTree) (bare : Bool) (text : Text) : Prop :=
  ∀ reference ∈ Document.references bare text,
    Reference.isRemote reference = false ∧ tree.FitsAlike reference

instance (tree : FileTree) (bare : Bool) (text : Text) : Decidable (tree.Followed bare text) :=
  inferInstanceAs (Decidable (∀ _ ∈ _, _ ∧ _))

namespace Document

variable {tree : FileTree} {options : Options} {text : Text}

/-- The text that a document should have does not depend on the network, if its references lead to
files. -/
theorem refresh_of_followed (h : tree.Followed options.bareFences text) (network network' : Network)
    (fetch fetch' : FetchOptions) (base : Text) :
    (refresh (tree.fetcher network fetch) base options text).result =
      (refresh (tree.fetcher network' fetch') base options text).result :=
  refresh_congr fun reference hm =>
    FileTree.fetcher_of_local (h reference hm).1 tree network network' fetch fetch' base

/-- A document should have one text by both paths of its directory. -/
theorem refresh_currentPath (hcurrent : tree.HasCurrent) (h : tree.Followed options.bareFences text)
    (network : Network) (fetch : FetchOptions) :
    (refresh (tree.fetcher network fetch) tree.currentPath options text).result =
      (refresh (tree.fetcher network fetch) ['.'] options text).result :=
  refresh_congr fun reference hm =>
    hcurrent.fetcher_currentPath (h reference hm).1 (h reference hm).2 network fetch

end Document

namespace Job

variable {job : Job} {tree now : FileTree} {path other text : Text} {failure : Failure} {update : Update}

/-! ## A document in a file -/

theorem updateOf_of_readText (job : Job) (h : tree.readText path = .ok text) (hslash : '/' ∉ path) :
    job.updateOf tree path =
      (Document.refresh (job.fetcher tree) ['.'] job.options text).result.map
        fun updated => ⟨some path, text, updated⟩ := by
  simp only [updateOf, Update.ofFile, h, Update.ofText, Outcome.after, Path.parent_of_not_mem hslash]
  cases (Document.refresh (job.fetcher tree) ['.'] job.options text).result <;> rfl

theorem turn_singleton_iff : job.Turn tree [path] now other ↔ now = tree ∧ other = path := by
  rw [turn_cons_iff, or_iff_left not_turn_nil]

theorem fails_singleton_iff :
    job.Fails tree [path] ↔
      (∃ failure, job.updateOf tree path = .error failure) ∨ job.IsRefused tree path := by
  simp [Fails, turn_singleton_iff]

theorem documents_of_endless (h : job.updateOf tree path = .error failure)
    (he : failure.isEndless = true) : job.documents tree [path] = none :=
  documents_eq_none_iff.mpr ⟨tree, path, turn_singleton_iff.mpr ⟨rfl, rfl⟩, failure, h, he⟩

theorem exists_documents_singleton (job : Job) (tree : FileTree) (path : Text)
    (h : ¬ job.IsEndless tree path) :
    ∃ report, job.documents tree [path] = some report := by
  refine Option.ne_none_iff_exists'.mp fun hnone => ?_
  obtain ⟨now, other, ht, he⟩ := documents_eq_none_iff.mp hnone
  obtain ⟨rfl, rfl⟩ := turn_singleton_iff.mp ht
  exact h he

/-- A run over one document that fails changes nothing and prints nothing. -/
theorem documents_of_error (h : job.updateOf tree path = .error failure)
    (he : failure.isEndless = false) :
    ∃ report, job.documents tree [path] = some report ∧ report.status = 2 ∧ report.tree = tree ∧
      (job.mode = .print → report.output = []) := by
  obtain ⟨report, hr⟩ := exists_documents_singleton job tree path (by
    rintro ⟨failure', h', he'⟩
    cases h.symm.trans h'
    simp [he] at he')
  have hall := isolates_of_documents hr
  refine ⟨report, hr, hall.failed (fails_singleton_iff.mpr (Or.inl ⟨failure, h⟩)), ?_, fun hm => ?_⟩
  · obtain ⟨other, ho, htree⟩ := hall.without [] path [] failure rfl h
    rw [← htree, eq_reportOf_of_documents ho]
    rfl
  · rw [hall.printed hm]
    simp [textOf, h]

/-- A run over one document that can be updated prints it, writes it or tells whether it should change. -/
theorem documents_of_ok (h : job.updateOf tree path = .ok update) (hr : ¬ job.IsRefused tree path) :
    ∃ report, job.documents tree [path] = some report ∧
      report.status = (if job.mode = .diff ∧ update.present ≠ update.updated then 1 else 0) ∧
      (job.mode = .print → report.output = update.updated) ∧
      (job.mode = .write → report.tree = tree.withText path update.updated) := by
  obtain ⟨report, hreport⟩ := exists_documents_singleton job tree path (by
    rintro ⟨failure, hf, -⟩
    cases h.symm.trans hf)
  have hall := isolates_of_documents hreport
  have hok : ¬ job.Fails tree [path] := by
    rw [fails_singleton_iff]
    rintro (⟨failure, hf⟩ | hrefused)
    · cases h.symm.trans hf
    · exact hr hrefused
  have hdated : job.Outdated tree [path] ↔ update.present ≠ update.updated := by
    simp [Outdated, h]
  refine ⟨report, hreport, ?_, fun hm => ?_, fun hm => ?_⟩
  · split
    · next hd => exact hall.outdated hok hd.1 (hdated.mpr hd.2)
    · next hd => exact hall.settled hok fun ho => hd ⟨ho.1, hdated.mp ho.2⟩
  · rw [hall.printed hm]
    simp [textOf, h]
  · rw [hall.written hm fun now other ht => ?_, List.foldl_cons, List.foldl_nil, settle_of_ok h]
    obtain ⟨rfl, rfl⟩ := turn_singleton_iff.mp ht
    exact hr

/-! ## A document from standard input -/

theorem input_of_endless (job : Job) (hm : job.mode = .print)
    (h : (Document.refresh (job.fetcher tree) tree.currentPath job.options text).result =
      .error failure) (he : failure.isEndless = true) : job.input tree (Text.encode text) = none := by
  simp [input, hm, Text.decode?_encode, Update.ofText, Outcome.after, h, he, Except.map]

theorem input_of_error (job : Job) (hm : job.mode = .print)
    (h : (Document.refresh (job.fetcher tree) tree.currentPath job.options text).result =
      .error failure) (he : failure.isEndless = false) :
    ∃ report, job.input tree (Text.encode text) = some report ∧ report.status = 2 ∧
      report.output = [] := by
  simp [input, hm, Text.decode?_encode, Update.ofText, Outcome.after, h, he, Except.map]

theorem input_of_ok (job : Job) {updated : Text} (hm : job.mode = .print)
    (h : (Document.refresh (job.fetcher tree) tree.currentPath job.options text).result =
      .ok updated) :
    ∃ report, job.input tree (Text.encode text) = some report ∧ report.status = 0 ∧
      report.output = updated := by
  simp [input, hm, Text.decode?_encode, Update.ofText, Outcome.after, h, Except.map, outputOf, status]

end Job

namespace Arguments

variable {arguments : Arguments} {tree : FileTree} {config : Config} {path text : Text} {number : Nat}

/-! ## Runs over one document -/

/-- What the arguments ask for in another mode and of other documents. -/
def inMode (arguments : Arguments) (mode : Mode) (paths : List Text) : Arguments :=
  { arguments with mode, paths }

theorem run_of_configIn_error {cause : Cause} (hc : arguments.configIn tree = .error cause)
    (mode : Mode) (paths : List Text) (system : System) (input : Bytes) (color : Bool) :
    (arguments.inMode mode paths).run system tree input color =
      some { tree, complaints := [.failure (.ofCause cause)], status := 2 } := by
  have hc' : (arguments.inMode mode paths).configIn tree = .error cause := hc
  simp only [run, hc']

theorem run_of_path (hc : arguments.configIn tree = .ok config) (hd : tree.isDirectory path = false)
    (mode : Mode) (system : System) (input : Bytes) (color : Bool) :
    (arguments.inMode mode [path]).run system tree input color =
      (((arguments.inMode mode [path]).job system config color).documents tree [path]).map
        fun report => { report with color := (arguments.job system config color).color } := by
  have hc' : (arguments.inMode mode [path]).configIn tree = .ok config := hc
  have hcollect : tree.collect (arguments.inMode mode [path]).paths = [path] := by
    simp [inMode, FileTree.collect, FileTree.documents, hd]
  rw [run_of_documents hc' rfl, hcollect]
  rfl

theorem run_of_input (hc : arguments.configIn tree = .ok config) (mode : Mode) (system : System)
    (input : Bytes) (color : Bool) :
    (arguments.inMode mode []).run system tree input color =
      (((arguments.inMode mode []).job system config color).input tree input).map
        fun report => { report with color := (arguments.job system config color).color } := by
  have hc' : (arguments.inMode mode []).configIn tree = .ok config := hc
  simp only [run, hc']
  rfl

/-- The options of a run are those of its configuration, in whatever mode and system. -/
theorem options_inMode (hkeys : Languages.Distinct config.languages) (arguments : Arguments) (mode : Mode)
    (paths : List Text) (system : System) (color : Bool) :
    ((arguments.inMode mode paths).job system config color).options =
      (arguments.job {} config false).options := by
  simp only [job, inMode, Config.options_eq_options hkeys system.order Order.asWritten]

/-- The text that a document of the current directory should have, if no network is needed for it. -/
def refreshed (arguments : Arguments) (tree : FileTree) (config : Config) (text : Text) :
    Except Failure Text :=
  (Document.refresh (tree.fetcher .none {}) ['.'] (arguments.job {} config false).options text).result

/-- The jobs differ in mode and system alone, so they refresh the document alike. -/
theorem updateOf_inMode (hread : tree.readText path = .ok text) (hslash : '/' ∉ path)
    (hkeys : Languages.Distinct config.languages)
    (hfollowed : tree.Followed (config.bareFences || arguments.bareFences) text) (mode : Mode)
    (system : System) (color : Bool) :
    ((arguments.inMode mode [path]).job system config color).updateOf tree path =
      (arguments.refreshed tree config text).map fun updated => ⟨some path, text, updated⟩ := by
  rw [Job.updateOf_of_readText _ hread hslash, options_inMode hkeys, Job.fetcher,
    Document.refresh_of_followed hfollowed _ .none _ {}, refreshed]

theorem refresh_inMode (h : tree.HasCurrent) (hkeys : Languages.Distinct config.languages)
    (hfollowed : tree.Followed (config.bareFences || arguments.bareFences) text) (mode : Mode)
    (system : System) (color : Bool) :
    let job := (arguments.inMode mode []).job system config color
    (Document.refresh (job.fetcher tree) tree.currentPath job.options text).result =
      arguments.refreshed tree config text := by
  intro job
  rw [options_inMode hkeys, Job.fetcher, Document.refresh_currentPath h hfollowed,
    Document.refresh_of_followed hfollowed _ .none _ {}, refreshed]

/-- What the four runs over one document leave behind, whatever systems they run in: none of them ends, or
all of them fail, or all of them get to the text that the document should have. The references lead to files,
the configuration says one thing of each extension, and the document can be written. -/
theorem run_modes_agree (arguments : Arguments) (h : tree.HasCurrent) (hslash : '/' ∉ path)
    (hfile : tree.file? path = some number) (hcontent : tree.content number = .ok (Text.encode text))
    (hkeys : ∀ config, arguments.configIn tree = .ok config → Languages.Distinct config.languages)
    (hfollowed : ∀ config, arguments.configIn tree = .ok config →
      tree.Followed (config.bareFences || arguments.bareFences) text)
    (printing streaming writing comparing : System)
    (hdisk : ∀ content, writing.disk tree number content = none) (input : Bytes) (color : Bool) :
    let printed := (arguments.inMode .print [path]).run printing tree input color
    let streamed := (arguments.inMode .print []).run streaming tree (Text.encode text) color
    let written := (arguments.inMode .write [path]).run writing tree input color
    let compared := (arguments.inMode .diff [path]).run comparing tree input color
    (printed = none ∧ streamed = none ∧ written = none ∧ compared = none) ∨
      ∃ print stream write compare, printed = some print ∧ streamed = some stream ∧
        written = some write ∧ compared = some compare ∧
        ((print.status = 2 ∧ stream.status = 2 ∧ write.status = 2 ∧ compare.status = 2 ∧
            print.output = [] ∧ stream.output = [] ∧ write.tree = tree) ∨
          ∃ updated, print.status = 0 ∧ stream.status = 0 ∧ write.status = 0 ∧
            compare.status = (if updated = text then 0 else 1) ∧
            print.output = updated ∧ stream.output = updated ∧
            write.tree.content number = .ok (Text.encode updated) ∧ tree.SameShape write.tree ∧
            ∀ other, other ≠ number → write.tree.content other = tree.content other) := by
  intro printed streamed written compared
  have hread : tree.readText path = .ok text := FileTree.readText_of_content hfile hcontent
  have hplain : tree.isDirectory path = false := by
    simp only [FileTree.isDirectory, FileTree.find_of_file? hfile]
  cases hc : arguments.configIn tree with
  | error cause =>
      have hrun := fun mode paths system input =>
        run_of_configIn_error hc mode paths system input color
      exact Or.inr ⟨_, _, _, _, hrun _ _ _ _, hrun _ _ _ _, hrun _ _ _ _, hrun _ _ _ _,
        Or.inl ⟨rfl, rfl, rfl, rfl, rfl, rfl, rfl⟩⟩
  | ok config =>
      have hrun := fun mode system => run_of_path hc hplain mode system input color
      have hstream := run_of_input hc .print streaming (Text.encode text) color
      simp only [printed, streamed, written, compared, hrun, hstream]
      have hupdate := fun mode system =>
        updateOf_inMode hread hslash (hkeys config hc) (hfollowed config hc) mode system color
      have hinput := refresh_inMode h (hkeys config hc) (hfollowed config hc) .print streaming color
      cases hr : arguments.refreshed tree config text with
      | error failure =>
          simp only [hr] at hupdate hinput
          cases he : failure.isEndless with
          | true =>
              have hnone := fun mode system => Job.documents_of_endless (hupdate mode system) he
              simp only [hnone, Job.input_of_endless _ rfl hinput he]
              exact Or.inl ⟨rfl, rfl, rfl, rfl⟩
          | false =>
              obtain ⟨print, hp, hps, -, hpo⟩ := Job.documents_of_error (hupdate .print printing) he
              obtain ⟨stream, hs, hss, hso⟩ := Job.input_of_error _ rfl hinput he
              obtain ⟨write, hw, hws, hwt, -⟩ := Job.documents_of_error (hupdate .write writing) he
              obtain ⟨compare, hd, hds, -, -⟩ := Job.documents_of_error (hupdate .diff comparing) he
              simp only [hp, hs, hw, hd]
              exact Or.inr ⟨_, _, _, _, rfl, rfl, rfl, rfl,
                Or.inl ⟨hps, hss, hws, hds, hpo rfl, hso, hwt⟩⟩
      | ok updated =>
          simp only [hr] at hupdate hinput
          obtain ⟨print, hp, hps, hpo, -⟩ :=
            Job.documents_of_ok (hupdate .print printing)
              (Job.not_isRefused_of_ne_write (by simp [job, inMode]))
          obtain ⟨stream, hs, hss, hso⟩ := Job.input_of_ok _ rfl hinput
          obtain ⟨write, hw, hws, -, hwt⟩ :=
            Job.documents_of_ok (hupdate .write writing) (Job.not_isRefused_of_disk hfile hdisk)
          obtain ⟨compare, hd, hds, -, -⟩ :=
            Job.documents_of_ok (hupdate .diff comparing)
              (Job.not_isRefused_of_ne_write (by simp [job, inMode]))
          simp only [hp, hs, hw, hd]
          have hkept := FileTree.withText_of_file? hfile updated
          rw [← hwt rfl] at hkept
          refine Or.inr ⟨_, _, _, _, rfl, rfl, rfl, rfl, Or.inr ⟨updated, hps, hss, hws, ?_,
            hpo rfl, hso, hkept⟩⟩
          have hm : ((arguments.inMode .diff [path]).job comparing config color).mode = .diff := rfl
          rw [hds]
          by_cases he : updated = text
          · simp [he]
          · simp [hm, he, Ne.symm he]

theorem run_modes_agree_above :
    let text := Text.ofLines ["[embedmd]:# (../docs/b.txt)"]
    let updated := Text.ofLines ["[embedmd]:# (../docs/b.txt)",
      "<!-- embedmd:begin (../docs/b.txt) -->", "```txt", "b", "```", "<!-- embedmd:end -->"]
    let tree := FileTree.ofFiles ["docs".toList] [
      ("b.txt".toList, Text.encode (Text.ofLines ["b"])),
      ("a.md".toList, Text.encode text)]
    let arguments : Arguments := {}
    let comparing : System := { disk := fun _ _ _ => some ⟨.refused "Read-only file system", none⟩ }
    let printed := (arguments.inMode .print ["a.md".toList]).run {} tree ByteArray.empty true
    let streamed := (arguments.inMode .print []).run {} tree (Text.encode text) true
    let written := (arguments.inMode .write ["a.md".toList]).run {} tree ByteArray.empty true
    let compared := (arguments.inMode .diff ["a.md".toList]).run comparing tree ByteArray.empty true
    tree.HasCurrent ∧ '/' ∉ "a.md".toList ∧ tree.file? "a.md".toList = some 1 ∧
      tree.content 1 = .ok (Text.encode text) ∧
      (∀ config, arguments.configIn tree = .ok config → Languages.Distinct config.languages) ∧
      (∀ config, arguments.configIn tree = .ok config →
        tree.Followed (config.bareFences || arguments.bareFences) text) ∧
      (∀ content, System.disk {} tree 1 content = none) ∧
      ∃ print stream write compare, printed = some print ∧ streamed = some stream ∧
        written = some write ∧ compared = some compare ∧
        print.status = 0 ∧ stream.status = 0 ∧ write.status = 0 ∧ compare.status = 1 ∧
        print.output = updated ∧ stream.output = updated ∧
        write.tree.content 1 = .ok (Text.encode updated) ∧ tree.SameShape write.tree ∧
        ∀ other, other ≠ 1 → write.tree.content other = tree.content other := by
  intro text updated tree arguments comparing printed streamed written compared
  have hcurrent : tree.HasCurrent :=
    ⟨FileTree.rooted_ofFiles (by decide) (by decide) _, by decide, by decide, by decide⟩
  have hslash : '/' ∉ "a.md".toList := by decide
  have hfile : tree.file? "a.md".toList = some 1 := by decide +kernel
  have hcontent : tree.content 1 = .ok (Text.encode text) := rfl
  have hc : arguments.configIn tree = .ok {} := by decide +kernel
  have hkeys : ∀ config, arguments.configIn tree = .ok config →
      Languages.Distinct config.languages := by
    rintro config he
    obtain rfl := Except.ok.inj (hc.symm.trans he)
    decide
  have hfollowed : ∀ config, arguments.configIn tree = .ok config →
      tree.Followed (config.bareFences || arguments.bareFences) text := by
    rintro config he
    obtain rfl := Except.ok.inj (hc.symm.trans he)
    decide +kernel
  have hdisk : ∀ content, System.disk {} tree 1 content = none := fun _ => rfl
  have hprinted : printed.map (fun report => (report.status, report.output)) = some (0, updated) := by
    decide +kernel
  have hchanged : updated ≠ text := by decide
  refine ⟨hcurrent, hslash, hfile, hcontent, hkeys, hfollowed, hdisk, ?_⟩
  rcases run_modes_agree arguments hcurrent hslash hfile hcontent hkeys hfollowed {} {} {} comparing
      hdisk ByteArray.empty true with
    ⟨hnone, -⟩ | ⟨print, stream, write, compare, hp, hs, hw, hd, ⟨htwo, -⟩ | ⟨reached, hall⟩⟩
  · have hnone' : printed = none := hnone
    simp [hnone'] at hprinted
  · obtain ⟨report, hr, he⟩ := Option.map_eq_some_iff.mp hprinted
    obtain rfl := Option.some.inj (hp.symm.trans hr)
    exact absurd (htwo.symm.trans (Prod.mk.inj he).1) (by decide)
  · obtain ⟨report, hr, he⟩ := Option.map_eq_some_iff.mp hprinted
    obtain rfl := Option.some.inj (hp.symm.trans hr)
    obtain rfl : reached = updated := hall.2.2.2.2.1.symm.trans (Prod.mk.inj he).2
    rw [if_neg hchanged] at hall
    exact ⟨print, stream, write, compare, hp, hs, hw, hd, hall⟩

/-- The document can be printed from its file where its reference is short enough behind a period. -/
theorem exists_printed_staying (n : Nat) {document : Bytes}
    (hdoc : document = Text.encode (Directive.staying n).writtenLine)
    (hc : ({} : Arguments).configIn (FileTree.besides document) = .ok {})
    (hshort : 2 * n + 3 ≤ FileTree.maxPathSize) :
    ∃ report, (({} : Arguments).inMode .print ["doc.md".toList]).run {} (FileTree.besides document)
      ByteArray.empty false = some report ∧ report.status = 0 := by
  have hcurrent := FileTree.hasCurrent_besides document
  obtain ⟨hfile, hcontent⟩ := FileTree.file?_besides document
  have hplain : (FileTree.besides document).isDirectory "doc.md".toList = false := by
    simp only [FileTree.isDirectory, FileTree.find_of_file? hfile]
  have hread : (FileTree.besides document).readText "doc.md".toList =
      .ok (Directive.staying n).writtenLine :=
    FileTree.readText_of_content hfile (hcontent.trans (congrArg Except.ok hdoc))
  have hsize : Text.utf8Size ['.'] = 1 := by decide
  let job := (({} : Arguments).inMode .print ["doc.md".toList]).job {} {} false
  obtain ⟨updated, hr⟩ := Document.exists_refresh_staying document job.system.network job.fetch n
    hcurrent.rooted.reach_period (by simp) (by decide) (by decide) (by rw [hsize]; omega)
  have hupdate : job.updateOf (FileTree.besides document) "doc.md".toList =
      .ok ⟨some "doc.md".toList, (Directive.staying n).writtenLine, updated⟩ := by
    rw [Job.updateOf_of_readText job hread (by decide)]
    exact congrArg (Except.map _) hr
  obtain ⟨report, hreport, hstatus, -⟩ :=
    Job.documents_of_ok hupdate (Job.not_isRefused_of_ne_write (by simp [job, Arguments.job, inMode]))
  have hmode : job.mode = .print := rfl
  refine ⟨{ report with color := false }, ?_, hstatus.trans (if_neg (by simp [hmode]))⟩
  rw [run_of_path hc hplain .print, hreport]
  rfl

/-- The document cannot be taken from standard input where its reference is too long behind the full path of
the current directory. -/
theorem exists_streamed_staying (n : Nat) {document : Bytes}
    (hdoc : document = Text.encode (Directive.staying n).writtenLine)
    (hc : ({} : Arguments).configIn (FileTree.besides document) = .ok {})
    (hlong : FileTree.maxPathSize < 2 * n + 11) :
    ∃ report, (({} : Arguments).inMode .print []).run {} (FileTree.besides document) document false =
      some report ∧ report.status = 2 := by
  subst hdoc
  have hcurrent := FileTree.hasCurrent_besides (Text.encode (Directive.staying n).writtenLine)
  have hpath := FileTree.currentPath_besides (Text.encode (Directive.staying n).writtenLine)
  have hsize : Text.utf8Size "/tmp/work".toList = 9 := by decide
  let job := (({} : Arguments).inMode .print []).job {} {} false
  have hr := Document.refresh_staying_of_lt _ job.system.network job.fetch n
    hcurrent.reach_currentPath (FileTree.currentPath_ne_nil _) (by rw [hpath]; decide)
    (by rw [hpath]; decide) (by rw [hpath, hsize]; omega)
  obtain ⟨report, hreport, hstatus, -⟩ := Job.input_of_error job rfl hr rfl
  refine ⟨{ report with color := false }, ?_, hstatus⟩
  rw [run_of_input hc .print, hreport]
  rfl

/-- A reference may be short enough behind a period and too long behind the full path of the current
directory: then the document can be printed from its file but not from standard input. -/
theorem run_modes_disagree_staying :
    let document := Text.encode (Directive.staying 2046).writtenLine
    let tree := FileTree.besides document
    Reference.isRemote (Directive.staying 2046).reference = false ∧ tree.HasCurrent ∧
      tree.file? "doc.md".toList = some 1 ∧ tree.content 1 = .ok document ∧
      (∃ printed, (({} : Arguments).inMode .print ["doc.md".toList]).run {} tree ByteArray.empty false =
        some printed ∧ printed.status = 0) ∧
      ∃ streamed, (({} : Arguments).inMode .print []).run {} tree document false = some streamed ∧
        streamed.status = 2 := by
  intro document tree
  have hc : ({} : Arguments).configIn tree = .ok {} := by decide +kernel
  obtain ⟨hfile, hcontent⟩ := FileTree.file?_besides document
  exact ⟨Reference.isRemote_staying 2046, FileTree.hasCurrent_besides document, hfile, hcontent,
    exists_printed_staying 2046 rfl hc (by decide), exists_streamed_staying 2046 rfl hc (by decide)⟩

end Arguments

end Transclude
