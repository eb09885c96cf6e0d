import FlowRunner.Proofs.CutTexts
import FlowRunner.Proofs.DatabaseCalls
import FlowRunner.Proofs.DistinctKeys
import FlowRunner.Proofs.History
import FlowRunner.Rehearsal.Stage
import FlowRunner.Run.Loading

/-!
# Loading what stands in a directory

Of the names in a directory, those of regular files with the extension of a workflow count
(`Loading.IsFlow`). They are loaded in the order of their paths, up to the first one that fails
(`Loading.Folder.Outcome`).

* `Loading.extension?_join_eq_some_iff`: the extension of a path is that of the name at its end.
* `Loading.chosen_perm`: the order in which the names are given does not matter.
* `Loading.Folder.flows_workflows`: the names that are left when other entries are passed over.
* `Loading.Folder.run_loadDirectory`: what is loaded depends on the directory alone.
* `Loading.loadDirectory_spec`: what a directory gives, in whatever order its names are listed.
-/

namespace FlowRunner.Loading

/-! ## Names and extensions -/

/-- A name that something in a directory can have. -/
structure IsName (name : String) : Prop where
  nonempty : name ≠ ""
  unslashed : '/' ∉ name.toList
  notHere : name ≠ "."
  notAbove : name ≠ ".."

instance (name : String) : Decidable (IsName name) :=
  decidable_of_iff (name ≠ "" ∧ '/' ∉ name.toList ∧ name ≠ "." ∧ name ≠ "..")
    ⟨fun ⟨hnonempty, hslash, hhere, habove⟩ => ⟨hnonempty, hslash, hhere, habove⟩,
      fun h => ⟨h.nonempty, h.unslashed, h.notHere, h.notAbove⟩⟩

/-- A name ends in a dot and an extension, in any case; something stands in front of the dot. -/
def HasExtension (name extension : String) : Prop :=
  ∃ stem written, stem ≠ [] ∧ '.' ∉ written ∧ name.toList = stem ++ '.' :: written ∧
    written.map Char.toLower = extension.toList

/-- A file of this name is a workflow. -/
def IsFlow (name : String) : Prop :=
  (HasExtension name "yaml" ∨ HasExtension name "yml" ∨ HasExtension name "json") ∧
    name ≠ "runner.yaml" ∧ name ≠ "runner.yml"

/-- The same text, which is empty or ends in a slash, precedes every name in a directory. -/
theorem exists_lead (directory : String) :
    ∃ lead, (lead = [] ∨ ∃ front, lead = front ++ ['/']) ∧
      ∀ name, (join directory name).toList = lead ++ name.toList := by
  unfold join
  by_cases hempty : directory.isEmpty
  · refine ⟨[], .inl rfl, fun name => ?_⟩
    simp [String.isEmpty_iff.mp hempty]
  by_cases hslash : directory.endsWith "/"
  · obtain ⟨front, hfront⟩ : "/".toList <:+ directory.toList := by
      rw [String.endsWith_eq_endsWith_toSlice] at hslash
      simpa using String.Slice.endsWith_string_iff.mp hslash
    refine ⟨directory.toList, .inr ⟨front, hfront.symm⟩, fun name => ?_⟩
    simp [hslash]
  · refine ⟨directory.toList ++ ['/'], .inr ⟨_, rfl⟩, fun name => ?_⟩
    simp [hempty, hslash]

theorem join_nil (name : String) : join "" name = name := by
  simp [join]

theorem fileName?_join {name : String} (h : IsName name) (directory : String) :
    fileName? (join directory name) = some name.toList := by
  obtain ⟨lead, hlead, hjoin⟩ := exists_lead directory
  have hpieces : ∃ pieces,
      Text.splitOn '/' (join directory name).toList = pieces ++ [name.toList] := by
    rw [hjoin]
    rcases hlead with rfl | ⟨front, rfl⟩
    · exact ⟨[], Text.splitOn_of_notMem h.unslashed⟩
    · refine ⟨Text.splitOn '/' front, ?_⟩
      rw [List.append_assoc, List.singleton_append, Text.splitOn_append,
        Text.splitOn_of_notMem h.unslashed]
  obtain ⟨pieces, hpieces⟩ := hpieces
  have hnonempty : name.toList ≠ [] := mt String.toList_eq_nil_iff.mp h.nonempty
  have hhere : name.toList ≠ ['.'] := fun heq => h.notHere (String.toList_inj.mp heq)
  have habove : name.toList ≠ ['.', '.'] := fun heq => h.notAbove (String.toList_inj.mp heq)
  unfold fileName?
  rw [hpieces]
  simp [hnonempty, hhere, habove]

/-- The extension of a path is that of the name at its end. -/
theorem extension?_join_eq_some_iff {name : String} (h : IsName name) (directory : String)
    {extension : String} :
    extension? (join directory name) = some extension ↔ HasExtension name extension := by
  have hunfold : extension? (join directory name) =
      (Text.cutLast? '.' name.toList).bind fun pieces =>
        if pieces.1.isEmpty then none else some (String.ofList (pieces.2.map Char.toLower)) := by
    unfold extension?
    rw [fileName?_join h]
    rfl
  rw [hunfold, Option.bind_eq_some_iff]
  constructor
  · rintro ⟨⟨stem, written⟩, hcut, hextension⟩
    obtain ⟨hname, hwritten⟩ := Text.cutLast?_eq_some_iff.mp hcut
    dsimp only at hextension
    split at hextension
    · cases hextension
    · rename_i hstem
      cases hextension
      exact ⟨stem, written, by simpa using hstem, hwritten, hname, String.toList_ofList.symm⟩
  · rintro ⟨stem, written, hstem, hwritten, hname, hextension⟩
    refine ⟨(stem, written), Text.cutLast?_eq_some_iff.mpr ⟨hname, hwritten⟩, ?_⟩
    simp [hstem, hextension]

theorem isWorkflow_iff {name : String} (h : IsName name) :
    isWorkflow name = true ↔ IsFlow name := by
  have hextension : ∀ extension,
      extension? name = some extension ↔ HasExtension name extension := by
    intro extension
    rw [← extension?_join_eq_some_iff h "", join_nil]
  have hknown : ["yaml", "yml", "json"].contains ((extension? name).getD "") = true ↔
      HasExtension name "yaml" ∨ HasExtension name "yml" ∨ HasExtension name "json" := by
    simp only [← hextension]
    cases extension? name with
    | none => simp
    | some extension => simp
  rw [isWorkflow, Bool.and_eq_true, hknown, IsFlow, and_comm]
  simp [isConfig]

/-! ## The order of the names -/

theorem mem_chosen {name : String} {names : List String} :
    name ∈ chosen names ↔ name ∈ names ∧ isWorkflow name = true := by
  rw [chosen, List.mem_mergeSort, List.mem_filter]

theorem chosen_sorted (names : List String) : (chosen names).Pairwise (· ≤ ·) := by
  have hsorted : (chosen names).Pairwise fun a b => decide (a ≤ b) = true := by
    apply List.pairwise_mergeSort
    · intro a b c hab hbc
      exact decide_eq_true (String.le_trans (of_decide_eq_true hab) (of_decide_eq_true hbc))
    · intro a b
      simpa using String.le_total a b
  exact hsorted.imp of_decide_eq_true

/-- The names of workflows have one order only. -/
theorem chosen_eq {names sorted : List String} (hperm : (names.filter isWorkflow).Perm sorted)
    (hsorted : sorted.Pairwise (· ≤ ·)) : chosen names = sorted :=
  ((List.mergeSort_perm _ _).trans hperm).eq_of_pairwise (fun _ _ _ _ => String.le_antisymm)
    (chosen_sorted names) hsorted

/-- The order in which the names are given does not matter. -/
theorem chosen_perm {names others : List String} (h : names.Perm others) :
    chosen names = chosen others :=
  chosen_eq ((h.filter _).trans (List.mergeSort_perm _ _).symm) (chosen_sorted others)

theorem chosen_increasing {names : List String} (h : names.Nodup) :
    (chosen names).Pairwise (· < ·) := by
  have hnodup : (chosen names).Nodup := (List.mergeSort_perm _ _).nodup_iff.mpr (h.filter _)
  refine ((chosen_sorted names).and hnodup).imp ?_
  rintro a b ⟨hle, hne⟩
  exact (List.le_iff_lt_or_eq.mp hle).resolve_right (mt String.toList_inj.mp hne)

/-! ## Directories -/

/-- What stands under a name in a directory. -/
inductive Node
  /-- A regular file, with what reading it gives. -/
  | file (content : Except FileError ByteArray)
  | directory
  | other
  /-- Something that leads nowhere. -/
  | dangling

/-- The kind of what stands under a name. -/
def Node.kind? : Node → Option FileKind
  | .file _ => some .file
  | .directory => some .directory
  | .other => some .other
  | .dangling => none

/-- What reading gives, when it is a regular file. -/
def Node.content? : Node → Option (Except FileError ByteArray)
  | .file content => some content
  | _ => none

theorem Node.content?_eq_some_iff {node : Node} {content : Except FileError ByteArray} :
    node.content? = some content ↔ node = .file content := by
  cases node <;> simp [content?]

theorem Node.isSome_content? (node : Node) :
    node.content?.isSome = (node.kind? == some .file) := by
  cases node <;> rfl

/-- A directory with its entries. -/
structure Folder where
  path : String
  entries : List (String × Node)
  distinct : Members.Distinct entries
  named : ∀ name ∈ Members.keys entries, IsName name

/-- What a file of a name gives, when it is read from a path with this outcome. -/
inductive LoadsAs (path name : String) :
    Except FileError ByteArray → Except LoadError Workflow → Prop
  | unreadable {e : FileError} : LoadsAs path name (.error e) (.error (.file e))
  | undecodable {bytes : ByteArray} (htext : Text.ofBytes? bytes = none) :
    LoadsAs path name (.ok bytes) (.error (.file .notText))
  | json {bytes : ByteArray} {text : String} {w : Workflow}
    (htext : Text.ofBytes? bytes = some text) (hname : HasExtension name "json")
    (hread : Workflow.ofJson text = .ok w) : LoadsAs path name (.ok bytes) (.ok w)
  | brokenJson {bytes : ByteArray} {text : String} {fault : Json.Fault}
    (htext : Text.ofBytes? bytes = some text) (hname : HasExtension name "json")
    (hread : Workflow.ofJson text = .error fault) :
    LoadsAs path name (.ok bytes) (.error (.json path fault))
  | yaml {bytes : ByteArray} {text : String} {w : Workflow}
    (htext : Text.ofBytes? bytes = some text) (hname : ¬ HasExtension name "json")
    (hread : Workflow.ofYaml? text = some w) : LoadsAs path name (.ok bytes) (.ok w)
  | brokenYaml {bytes : ByteArray} {text : String}
    (htext : Text.ofBytes? bytes = some text) (hname : ¬ HasExtension name "json")
    (hread : Workflow.ofYaml? text = none) : LoadsAs path name (.ok bytes) (.error (.yaml path))

namespace Folder

variable (folder : Folder)

/-- The path of a name in the directory. -/
def pathOf (name : String) : String :=
  join folder.path name

/-- A regular file of the directory is loaded with this outcome. -/
def Loads (name : String) (result : Except LoadError Workflow) : Prop :=
  ∃ content, (name, Node.file content) ∈ folder.entries ∧
    LoadsAs (folder.pathOf name) name content result

/-- The names of all workflows of the directory, each once and in the order of their paths. -/
structure Flows (names : List String) : Prop where
  mem_iff : ∀ name, name ∈ names ↔
    IsFlow name ∧ ∃ content, (name, Node.file content) ∈ folder.entries
  increasing : (names.map folder.pathOf).Pairwise (· < ·)

/-- All files are loaded, each with its path, or the first one that fails gives its error. -/
inductive Outcome (names : List String) : Except LoadError (List (String × Workflow)) → Prop
  | loaded {flows : List (String × Workflow)}
    (h : List.Forall₂
      (fun name flow => flow.1 = folder.pathOf name ∧ folder.Loads name (.ok flow.2)) names flows) :
    Outcome names (.ok flows)
  | failed {before after : List String} {name : String} {e : LoadError}
    (hnames : names = before ++ name :: after)
    (hbefore : ∀ earlier ∈ before, ∃ w, folder.Loads earlier (.ok w))
    (hfails : folder.Loads name (.error e)) : Outcome names (.error e)

/-- The backends show a directory as it is, with its names in some order, as long as their state is
one of those in which nothing has changed it; looking at it does not change it. -/
structure Shown {σ : Type} (answer : Backends σ) (still : σ → Prop) (listing : List String) :
    Prop where
  all : listing.Perm (Members.keys folder.entries)
  lists : ∀ s, still s → (answer (.listDirectory folder.path) s).1 = .ok listing ∧
    still (answer (.listDirectory folder.path) s).2
  kinds : ∀ s, still s → ∀ name node, (name, node) ∈ folder.entries →
    (answer (.fileKind (folder.pathOf name)) s).1 = node.kind? ∧
      still (answer (.fileKind (folder.pathOf name)) s).2
  contents : ∀ s, still s → ∀ name content, (name, Node.file content) ∈ folder.entries →
    (answer (.readFile (folder.pathOf name)) s).1 = content ∧
      still (answer (.readFile (folder.pathOf name)) s).2

/-! ## What stands under a name -/

/-- What reading the regular file of a name gives; nothing when the directory has no such file. -/
def content? (name : String) : Option (Except FileError ByteArray) :=
  (Members.get? name folder.entries).bind Node.content?

theorem content?_eq_some_iff {name : String} {content : Except FileError ByteArray} :
    folder.content? name = some content ↔ (name, Node.file content) ∈ folder.entries := by
  simp only [content?, Option.bind_eq_some_iff, Members.get?_eq_some_iff folder.distinct,
    Node.content?_eq_some_iff, exists_eq_right]

/-- Whether a regular file stands under a name. -/
def isFile (name : String) : Bool :=
  (folder.content? name).isSome

theorem isFile_iff {name : String} :
    folder.isFile name = true ↔ ∃ content, (name, Node.file content) ∈ folder.entries := by
  simp only [isFile, Option.isSome_iff_exists, content?_eq_some_iff]

theorem isFile_of_mem {name : String} {node : Node} (h : (name, node) ∈ folder.entries) :
    folder.isFile name = (node.kind? == some .file) := by
  rw [isFile, content?, (Members.get?_eq_some_iff folder.distinct).mpr h, Option.bind_some,
    node.isSome_content?]

theorem mem_keys {folder : Folder} {name : String} {node : Node}
    (h : (name, node) ∈ folder.entries) : name ∈ Members.keys folder.entries :=
  List.mem_map_of_mem h

/-- The names of all workflows of the directory. -/
def workflows : List String :=
  chosen ((Members.keys folder.entries).filter folder.isFile)

theorem pathOf_lt {a b : String} (h : a < b) : folder.pathOf a < folder.pathOf b := by
  obtain ⟨lead, -, hjoin⟩ := exists_lead folder.path
  show (join folder.path a).toList < (join folder.path b).toList
  rw [hjoin, hjoin]
  exact List.append_left_lt h

theorem flows_workflows : folder.Flows folder.workflows where
  mem_iff name := by
    rw [workflows, mem_chosen, List.mem_filter, folder.isFile_iff]
    constructor
    · rintro ⟨⟨hname, hfile⟩, hflow⟩
      exact ⟨(isWorkflow_iff (folder.named name hname)).mp hflow, hfile⟩
    · rintro ⟨hflow, content, hmem⟩
      have hname := mem_keys hmem
      exact ⟨⟨hname, content, hmem⟩, (isWorkflow_iff (folder.named name hname)).mpr hflow⟩
  increasing :=
    have hnodup : ((Members.keys folder.entries).filter folder.isFile).Nodup :=
      folder.distinct.filter _
    List.pairwise_map.mpr ((chosen_increasing hnodup).imp folder.pathOf_lt)

/-! ## What the files give -/

/-- What loading the file at a path gives, once it has been read. -/
def outcome (path : String) (content : Except FileError ByteArray) : Except LoadError Workflow :=
  match content.bind TextFile.decode with
  | .ok text => parse path text
  | .error e => .error (.file e)

/-- What loading the file of a name gives. -/
def result (name : String) : Except LoadError Workflow :=
  outcome (folder.pathOf name) ((folder.content? name).getD (.error .notFound))

/-- What loading the files of some names gives, each with its path. -/
def results : List String → Except LoadError (List (String × Workflow))
  | [] => .ok []
  | name :: rest =>
    match folder.result name with
    | .error e => .error e
    | .ok w => (results rest).map fun others => (folder.pathOf name, w) :: others

variable {folder}

theorem loadsAs_outcome {name : String} (h : IsName name) (content : Except FileError ByteArray) :
    LoadsAs (folder.pathOf name) name content (outcome (folder.pathOf name) content) := by
  cases content with
  | error e => exact .unreadable
  | ok bytes =>
    cases htext : Text.ofBytes? bytes with
    | none =>
      simpa only [outcome, Except.bind, TextFile.decode, htext] using .undecodable htext
    | some text =>
      have houtcome : outcome (folder.pathOf name) (.ok bytes) =
          parse (folder.pathOf name) text := by
        simp only [outcome, Except.bind, TextFile.decode, htext]
      rw [houtcome, parse]
      by_cases hname : HasExtension name "json"
      · have hjson : extension? (folder.pathOf name) = some "json" :=
          (extension?_join_eq_some_iff h folder.path).mpr hname
        rw [hjson, if_pos (beq_self_eq_true _)]
        cases hread : Workflow.ofJson text with
        | ok w => exact .json htext hname hread
        | error fault => exact .brokenJson htext hname hread
      · have hyaml : ¬ (extension? (folder.pathOf name) == some "json") = true := by
          rw [beq_iff_eq]
          exact mt (extension?_join_eq_some_iff h folder.path).mp hname
        rw [if_neg hyaml]
        cases hread : Workflow.ofYaml? text with
        | some w => exact .yaml htext hname hread
        | none => exact .brokenYaml htext hname hread

theorem loads_result {name : String} (h : folder.isFile name = true) :
    folder.Loads name (folder.result name) := by
  obtain ⟨content, hmem⟩ := folder.isFile_iff.mp h
  refine ⟨content, hmem, ?_⟩
  rw [result, folder.content?_eq_some_iff.mpr hmem, Option.getD_some]
  exact loadsAs_outcome (folder.named name (mem_keys hmem)) content

theorem Outcome.cons_error {name : String} {rest : List String} {e : LoadError}
    (h : folder.Loads name (.error e)) : folder.Outcome (name :: rest) (.error e) :=
  .failed (List.nil_append _).symm (fun _ hearlier => nomatch hearlier) h

theorem Outcome.cons_ok {name : String} {rest : List String} {w : Workflow}
    {others : Except LoadError (List (String × Workflow))} (h : folder.Loads name (.ok w))
    (hrest : folder.Outcome rest others) :
    folder.Outcome (name :: rest) (others.map fun flows => (folder.pathOf name, w) :: flows) := by
  cases hrest with
  | loaded hflows => exact .loaded (.cons ⟨rfl, h⟩ hflows)
  | failed hnames hbefore hfails =>
    subst hnames
    refine .failed List.cons_append.symm (fun earlier hearlier => ?_) hfails
    rcases List.mem_cons.mp hearlier with rfl | hearlier
    · exact ⟨w, h⟩
    · exact hbefore earlier hearlier

theorem isFile_of_mem_workflows {name : String} (h : name ∈ folder.workflows) :
    folder.isFile name = true :=
  (List.mem_filter.mp (mem_chosen.mp h).1).2

theorem outcome_results {names : List String}
    (h : ∀ name ∈ names, folder.isFile name = true) :
    folder.Outcome names (folder.results names) := by
  induction names with
  | nil => exact .loaded .nil
  | cons name rest ih =>
    have hname := loads_result (h name List.mem_cons_self)
    have hrest := ih fun other hother => h other (List.mem_cons_of_mem _ hother)
    rw [results]
    cases hresult : folder.result name with
    | error e => exact .cons_error (hresult ▸ hname)
    | ok w => exact .cons_ok (hresult ▸ hname) hrest

/-! ## Runs against backends that show the directory -/

variable {σ : Type} {answer : Backends σ} {still : σ → Prop} {listing : List String}

theorem run_filesAmong (h : folder.Shown answer still listing) {names : List String}
    (hnames : ∀ name ∈ names, name ∈ Members.keys folder.entries) {s : σ} (hs : still s) :
    ((filesAmong folder.path names).run answer s).1 =
        names.filter folder.isFile ∧
      still ((filesAmong folder.path names).run answer s).2 := by
  induction names generalizing s with
  | nil => exact ⟨rfl, hs⟩
  | cons name rest ih =>
    obtain ⟨node, hnode⟩ : ∃ node, (name, node) ∈ folder.entries := by
      obtain ⟨⟨_, node⟩, hnode, rfl⟩ := List.mem_map.mp (hnames name List.mem_cons_self)
      exact ⟨node, hnode⟩
    obtain ⟨hkind, hstill⟩ := h.kinds s hs name node hnode
    obtain ⟨hrest, hafter⟩ :=
      ih (fun other hother => hnames other (List.mem_cons_of_mem _ hother)) hstill
    rw [pathOf] at hkind hrest hafter
    refine ⟨?_, by simpa only [filesAmong, Script.run, Script.run_bind] using hafter⟩
    rw [List.filter_cons, folder.isFile_of_mem hnode]
    simp only [filesAmong, Script.run, Script.run_bind, hkind, hrest]

/-- A file is loaded as it stands in the directory. -/
theorem run_loadFile (h : folder.Shown answer still listing) {name : String}
    (hname : folder.isFile name = true) {s : σ} (hs : still s) :
    ((loadFile (folder.pathOf name)).run answer s).1 = folder.result name ∧
      still ((loadFile (folder.pathOf name)).run answer s).2 := by
  obtain ⟨content, hmem⟩ := folder.isFile_iff.mp hname
  obtain ⟨hread, hstill⟩ := h.contents s hs name content hmem
  refine ⟨?_, hstill⟩
  rw [result, folder.content?_eq_some_iff.mpr hmem, Option.getD_some, outcome, ← hread]
  rfl

theorem run_loadFiles (h : folder.Shown answer still listing) {names : List String}
    (hnames : ∀ name ∈ names, folder.isFile name = true) {s : σ} (hs : still s) :
    ((loadFiles (names.map folder.pathOf)).run answer s).1 = folder.results names := by
  induction names generalizing s with
  | nil => rfl
  | cons name rest ih =>
    obtain ⟨hload, hstill⟩ := run_loadFile h (hnames name List.mem_cons_self) hs
    have hrest := ih (fun other hother => hnames other (List.mem_cons_of_mem _ hother)) hstill
    rw [results, List.map_cons, loadFiles, Script.run_bind, hload]
    cases folder.result name with
    | error e => rfl
    | ok w => rw [Script.run_bind, hrest, Script.run_done]

/-- A directory gives what its workflows give, in whatever order its names are listed. -/
theorem run_loadDirectory (h : folder.Shown answer still listing) {s : σ} (hs : still s) :
    ((loadDirectory folder.path).run answer s).1 = folder.results folder.workflows := by
  obtain ⟨hlisting, hstill⟩ := h.lists s hs
  obtain ⟨hamong, hafter⟩ := run_filesAmong h (fun name hname => h.all.mem_iff.mp hname) hstill
  have hchosen : chosen (listing.filter folder.isFile) = folder.workflows :=
    chosen_perm (h.all.filter _)
  have hrun : ((loadDirectory folder.path).run answer s).1 =
      ((loadFiles (folder.workflows.map folder.pathOf)).run answer
        ((filesAmong folder.path listing).run answer
          (answer (.listDirectory folder.path) s).2).2).1 := by
    simp only [loadDirectory, Script.run, hlisting, Script.run_bind, hamong, hchosen]
    rfl
  rw [hrun]
  exact run_loadFiles h (fun _ hname => isFile_of_mem_workflows hname) hafter

end Folder

/-- What the files of a directory give does not depend on the order in which they are listed. -/
theorem loadDirectory_spec (folder : Folder) :
    ∃ names result, folder.Flows names ∧ folder.Outcome names result ∧
      ∀ (σ : Type) (answer : Backends σ) (still : σ → Prop) (listing : List String),
        folder.Shown answer still listing → ∀ s, still s →
          ((loadDirectory folder.path).run answer s).1 = result :=
  ⟨folder.workflows, folder.results folder.workflows, folder.flows_workflows,
    Folder.outcome_results fun _ hname => Folder.isFile_of_mem_workflows hname,
    fun _ _ _ _ hshown _ hs => Folder.run_loadDirectory hshown hs⟩

/-- The files of a rehearsal show a directory when they have its entries. -/
theorem Folder.shown_tree {folder : Folder} {tree : FileTree} {listing : List String}
    (hall : listing.Perm (Members.keys folder.entries))
    (hlist : tree.list folder.path = .ok listing)
    (hkinds : ∀ entry ∈ folder.entries, tree.kind? (folder.pathOf entry.1) = entry.2.kind?)
    (hcontents : ∀ entry ∈ folder.entries, ∀ content ∈ entry.2.content?,
      tree.read (folder.pathOf entry.1) = content) :
    folder.Shown Stage.answer (fun s => s.files = tree) listing where
  all := hall
  lists s hs := by
    simp only [Stage.answer, hs, hlist, and_self]
  kinds s hs name node hnode := by
    simp only [Stage.answer, hs, hkinds _ hnode, and_self]
  contents s hs name content hnode := by
    simp only [Stage.answer, hs, hcontents _ hnode content rfl, and_self]

/-- A directory with names that look alike; two of its workflows are broken. -/
def shelf : Folder where
  path := "flows"
  entries := [
    ("b.yaml", .file (.ok ⟨#[255]⟩)),
    ("A.JSON", .file (.ok "".toUTF8)),
    (".yml", .file (.ok "".toUTF8)),
    ("runner.yaml", .file (.ok "".toUTF8)),
    ("Runner.yml", .file (.ok "".toUTF8)),
    ("a.json", .directory)]
  distinct := by decide
  named := by decide

/-- The files of the directory, in the order of its entries. -/
def shelfTree : FileTree :=
  ⟨[(["flows"], none), (["flows", "b.yaml"], some ⟨#[255]⟩), (["flows", "A.JSON"], some "".toUTF8),
    (["flows", ".yml"], some "".toUTF8), (["flows", "runner.yaml"], some "".toUTF8),
    (["flows", "Runner.yml"], some "".toUTF8), (["flows", "a.json"], none)]⟩

theorem shelf_shown : shelf.Shown Stage.answer (fun s => s.files = shelfTree)
    (Members.keys shelf.entries) :=
  Folder.shown_tree (.refl _) (by decide +kernel) (by decide +kernel) (by decide +kernel)

theorem shelf_shown_reversed :
    shelf.Shown Stage.answer (fun s => s.files = ⟨shelfTree.entries.reverse⟩)
      (Members.keys shelf.entries).reverse :=
  Folder.shown_tree (List.reverse_perm _) (by decide +kernel) (by decide +kernel)
    (by decide +kernel)

theorem loadDirectory_spec_shelf :
    shelf.Shown Stage.answer (fun s => s.files = shelfTree) (Members.keys shelf.entries) ∧
      shelf.Shown Stage.answer (fun s => s.files = ⟨shelfTree.entries.reverse⟩)
        (Members.keys shelf.entries).reverse ∧
      ∃ names result, shelf.Flows names ∧ shelf.Outcome names result ∧
        (∀ s, s.files = shelfTree → ((loadDirectory "flows").run Stage.answer s).1 = result) ∧
        ∀ s, s.files = ⟨shelfTree.entries.reverse⟩ →
          ((loadDirectory "flows").run Stage.answer s).1 = result := by
  obtain ⟨names, result, hflows, houtcome, hrun⟩ := loadDirectory_spec shelf
  exact ⟨shelf_shown, shelf_shown_reversed, names, result, hflows, houtcome,
    hrun _ _ _ _ shelf_shown, hrun _ _ _ _ shelf_shown_reversed⟩

example (s : Stage) (hs : s.files = shelfTree) :
    ((loadDirectory "flows").run Stage.answer s).1.map (fun flows => flows.map Prod.fst) =
      .error (.json "flows/A.JSON" .truncated) := by
  have hnames : shelf.workflows = ["A.JSON", "Runner.yml", "b.yaml"] :=
    chosen_eq (by decide +kernel) (by decide +kernel)
  have hrun := Folder.run_loadDirectory shelf_shown hs
  rw [hnames] at hrun
  rw [show "flows" = shelf.path from rfl, hrun]
  decide +kernel

end FlowRunner.Loading
