import FlowRunner.Proofs.Attempts
import FlowRunner.Proofs.CutTexts

/-!
# Files that are written and read again

`write` puts lines together and `read` takes them apart. What is read of a file after it was written
is a list of texts without line breaks, and joined with line breaks they are the text that was
written. So lines come back as they were given, when there is one at least and none of them holds a
line break; no lines at all come back as one empty line (`TextFile.read_after_write`).

This needs of the backends that a file holds what was last written to it, which the files of a stage
do, by whatever path they are reached (`Stage.keepsFiles`).
-/

namespace FlowRunner

/-! ## Lines -/

namespace TextFile

theorem newline_notMem_of_mem_linesOf {text line : String} (h : line ∈ linesOf text) :
    '\n' ∉ line.toList := by
  obtain ⟨piece, hpiece, rfl⟩ := List.mem_map.mp h
  rw [String.toList_ofList]
  exact Text.notMem_of_mem_splitOn hpiece

/-- The lines of a text are all of it. -/
theorem intercalate_linesOf (text : String) : "\n".intercalate (linesOf text) = text := by
  have hpieces : (linesOf text).map String.toList = Text.splitOn '\n' text.toList := by
    rw [linesOf, List.map_map]
    exact List.map_id'' (fun _ => String.toList_ofList) _
  rw [← String.toList_inj, String.toList_intercalate, hpieces, ← Text.join_eq_intercalate]
  exact Text.join_splitOn '\n' text.toList

/-- Lines are what they are when joined, unless there are none. -/
theorem linesOf_intercalate {lines : List String} (hne : lines ≠ [])
    (h : ∀ line ∈ lines, '\n' ∉ line.toList) : linesOf ("\n".intercalate lines) = lines := by
  have hpieces : Text.splitOn '\n' ("\n".intercalate lines).toList = lines.map String.toList := by
    rw [String.toList_intercalate, ← Text.join_eq_intercalate]
    exact Text.splitOn_join (mt List.map_eq_nil_iff.mp hne) (List.forall_mem_map.mpr h)
  rw [linesOf, hpieces, List.map_map]
  exact List.map_id'' (fun _ => String.ofList_toList) _

theorem contentOf_ofTexts (texts : List String) :
    contentOf (some (.ofTexts texts)) = "\n".intercalate texts := by
  rw [Value.ofTexts, contentOf, List.map_map]
  exact congrArg _ (List.map_id'' (fun _ => rfl) _)

/-! ## Writing and reading -/

variable {step : Step} {path : String}

theorem run_write (hpath : step.text? "filename" = some path) :
    (run step "write").run =
      .ask (.writeFile path (Text.bytesOf (contentOf (step.get? "write_data")))) fun reply =>
        match reply with
        | .ok _ => .done (.ok .null)
        | .error e => .done (.error (.file path e.message)) := by
  unfold run Program.required
  rw [hpath]
  refine congrArg (Script.ask _) (funext fun reply => ?_)
  cases reply <;> rfl

theorem run_read (hpath : step.text? "filename" = some path) :
    (run step "read").run = .ask (.readFile path) fun reply =>
      match reply.bind decode with
      | .ok text => .done (.ok (.ofTexts (linesOf text)))
      | .error e => .done (.error (.file path e.message)) := by
  unfold run Program.required
  rw [hpath]
  refine congrArg (Script.ask _) (funext fun reply => ?_)
  dsimp only [Script.done_bind]
  cases reply.bind decode <;> rfl

variable {σ : Type} {answer : Backends σ} {s t : σ}

/-- A step that has written a file asked for nothing else. -/
theorem exchange_of_written {result : Value} (hpath : step.text? "filename" = some path)
    (h : (run step "write").run.run answer s = (.ok result, t)) :
    answer (.writeFile path (Text.bytesOf (contentOf (step.get? "write_data")))) s = (.ok (), t) ∧
      (run step "write").run.history answer s =
        [⟨.writeFile path (Text.bytesOf (contentOf (step.get? "write_data"))), .ok ()⟩] := by
  rw [run_write hpath] at h ⊢
  rw [Script.run] at h
  rw [Script.history]
  cases hreply : answer (.writeFile path (Text.bytesOf (contentOf (step.get? "write_data")))) s with
  | mk reply after =>
    rw [hreply] at h
    cases reply with
    | error e => cases h
    | ok written =>
      cases h
      exact ⟨rfl, rfl⟩

theorem run_read_of_kept {text : String} (hpath : step.text? "filename" = some path)
    (hkept : (answer (.readFile path) s).1 = .ok (Text.bytesOf text)) :
    (run step "read").run.run answer s =
      (.ok (.ofTexts (linesOf text)), (answer (.readFile path) s).2) := by
  have hdecoded : (answer (.readFile path) s).1.bind decode = .ok text := by
    rw [hkept, Except.bind, decode, Text.ofBytes?_bytesOf]
  rw [run_read hpath, Script.run]
  dsimp only
  rw [hdecoded]
  rfl

end TextFile

/-- What was last written to a file is what is read of it. -/
def KeepsFiles {σ : Type} (answer : Backends σ) : Prop :=
  ∀ path content s t, answer (.writeFile path content) s = (.ok (), t) →
    (answer (.readFile path) t).1 = .ok content

namespace TextFile

/-- After a step has written a file, a step that reads it is given the lines of the text that was
written: texts without line breaks that make up the text again. They are the lines that were to be
written, if there were any and none of them had a line break in it. -/
theorem read_after_write {σ : Type} {answer : Backends σ} (hkeeps : KeepsFiles answer)
    (config : Config) {write read : Step} {path : String}
    (hwrite : write.text? "filename" = some path) (hread : read.text? "filename" = some path)
    {s t : σ} {result : Value}
    (hwritten : (Attempt.invocation config ⟨.file, "write"⟩ write).run answer s = (.ok result, t)) :
    ∃ text lines u,
      (Attempt.invocation config ⟨.file, "write"⟩ write).history answer s =
        [⟨.writeFile path (Text.bytesOf text), .ok ()⟩] ∧
      (Attempt.invocation config ⟨.file, "read"⟩ read).run answer t = (.ok (.ofTexts lines), u) ∧
      (∀ line ∈ lines, '\n' ∉ line.toList) ∧ "\n".intercalate lines = text ∧
      ∀ given, write.get? "write_data" = some (.ofTexts given) → given ≠ [] →
        (∀ line ∈ given, '\n' ∉ line.toList) → lines = given := by
  obtain ⟨hreply, hhistory⟩ := exchange_of_written hwrite hwritten
  refine ⟨_, _, _, hhistory, run_read_of_kept hread (hkeeps path _ s t hreply),
    fun _ => newline_notMem_of_mem_linesOf, intercalate_linesOf _, ?_⟩
  intro given hgiven hne hlines
  rw [hgiven, contentOf_ofTexts]
  exact linesOf_intercalate hne hlines

end TextFile

/-! ## The files of a stage -/

namespace FileTree

variable {tree : FileTree} {names : List String}

theorem lookup_cons (other key : List String) (content : Option ByteArray)
    (rest : List (List String × Option ByteArray)) :
    List.lookup other ((key, content) :: rest) =
      if other = key then some content else rest.lookup other := by
  by_cases h : other = key
  · simp [h]
  · rw [List.lookup_cons, beq_eq_false_iff_ne.mpr h, if_neg h]

theorem lookup_set (tree : FileTree) (names : List String) (content : Option ByteArray)
    (other : List String) :
    (tree.set names content).entries.lookup other =
      if other = names then some content else tree.entries.lookup other := by
  rw [set, List.lookup_append, lookup_cons, List.lookup_nil]
  induction tree.entries with
  | nil => rfl
  | cons entry rest ih =>
    obtain ⟨key, old⟩ := entry
    rw [lookup_cons]
    by_cases hkey : key = names
    · rw [List.filter_cons_of_neg (by simp [hkey]), ih, hkey]
      split <;> rfl
    · rw [List.filter_cons_of_pos (by simp [hkey]), lookup_cons]
      by_cases h : other = key
      · rw [if_pos h, if_pos h, Option.some_or, h, if_neg hkey]
      · rw [if_neg h, if_neg h, ih]

theorem entry?_set_self (hnames : names ≠ []) (content : ByteArray) :
    FileTree.entry? (tree.set names (some content)) names = some (.file names content) := by
  unfold entry?
  rw [if_neg (mt List.isEmpty_iff.mp hnames), lookup_set, if_pos rfl]

theorem entry?_set_of_ne {other : List String} (h : other ≠ names) (content : Option ByteArray) :
    FileTree.entry? (tree.set names content) other = tree.entry? other := by
  unfold entry?
  rw [lookup_set, if_neg h]

theorem entry?_cases {found : Place} (h : tree.entry? names = some found) :
    (∃ content, found = .file names content) ∨ found = .directory names := by
  unfold entry? at h
  split at h
  · rename_i hempty
    rw [List.isEmpty_iff.mp hempty]
    exact .inr (Option.some.inj h).symm
  split at h
  · rename_i content _
    exact .inl ⟨content, (Option.some.inj h).symm⟩
  · exact .inr (Option.some.inj h).symm
  · cases h

/-- A place that a path can lead through. -/
inductive Passable : Place → Prop
  | directory (names : List String) : Passable (.directory names)
  | outside : Passable .outside

/-- A place that a text can be written to: a file, or a name that is free. -/
inductive Writable (names : List String) : Place → Prop
  | file (content : ByteArray) : Writable names (.file names content)
  | free : Writable names (.free names false)

/-- What the next name of a path does that leads to a writable place: it is no real name and leads on
whatever the tree is, it enters a directory, or it is the last one. In other trees it does the same,
as far as they have the same entry. -/
inductive Turns (tree : FileTree) (names : List String) (start : Place) (name : String) :
    (rest : List String) → Prop
  | on {rest : List String} (next : Place) (hnext : Passable next)
    (heq : ∀ other : FileTree, other.follow start (name :: rest) = other.follow next rest) :
    Turns tree names start name rest
  | enters {rest inner : List String} (hentry : tree.entry? inner = some (.directory inner))
    (heq : ∀ other : FileTree, other.entry? inner = some (.directory inner) →
      other.follow start (name :: rest) = other.follow (.directory inner) rest) :
    Turns tree names start name rest
  | ends (hnames : names ≠ []) (hentry : tree.entry? names ≠ some (.directory names))
    (heq : ∀ (other : FileTree) content, other.entry? names = some (.file names content) →
      other.follow start [name] = .ok (.file names content)) :
    Turns tree names start name []

theorem turns_of_follow {start place : Place} {name : String} {rest : List String}
    (hstart : Passable start) (hplace : Writable names place)
    (h : tree.follow start (name :: rest) = .ok place) : Turns tree names start name rest := by
  cases hstart with
  | outside =>
    rw [follow] at h
    split at h
    · rename_i hdot
      exact .on .outside .outside fun other => by rw [follow, if_pos hdot]
    · cases h
  | directory above =>
    rw [follow] at h
    split at h
    · rename_i hdot
      exact .on (.directory above) (.directory above) fun other => by rw [follow, if_pos hdot]
    rename_i hdot
    split at h
    · rename_i hup
      refine .on (if above.isEmpty then .outside else .directory above.dropLast) ?_ fun other => ?_
      · split
        · exact .outside
        · exact .directory _
      · rw [follow, if_neg hdot, if_pos hup]
    rename_i hup
    split at h
    · cases h
    rename_i hlength
    have hfollow : ∀ (other : FileTree) found, other.entry? (above ++ [name]) = some found →
        other.follow (.directory above) (name :: rest) = other.follow found rest := by
      intro other found hfound
      rw [follow, if_neg hdot, if_neg hup, if_neg hlength, hfound]
    split at h
    · rename_i found hfound
      rcases entry?_cases hfound with ⟨content, rfl⟩ | rfl
      · -- A file ends the path.
        cases rest with
        | cons next more => cases h
        | nil =>
          cases h
          cases hplace
          refine .ends (by simp) ?_ fun other content hcontent => hfollow other _ hcontent
          rw [hfound]
          exact nofun
      · exact .enters hfound fun other => hfollow other _
    · rename_i hfound
      cases rest with
      | cons next more =>
        simp only [follow] at h
        split at h
        · cases h
          cases hplace
        · cases h
      | nil =>
        cases h
        cases hplace
        refine .ends (by simp) ?_ fun other content hcontent => hfollow other _ hcontent
        rw [hfound]
        exact nofun

/-- A path ends at a writable place only if no directory stands there. -/
theorem entry?_of_follow {start place : Place} {rest : List String} (hstart : Passable start)
    (hplace : Writable names place) (h : tree.follow start rest = .ok place) :
    tree.entry? names ≠ some (.directory names) := by
  induction rest generalizing start with
  | nil => cases hstart <;> cases h <;> cases hplace
  | cons name rest ih =>
    cases turns_of_follow hstart hplace h with
    | on next hnext heq => exact ih hnext (heq tree ▸ h)
    | enters hentry heq => exact ih (.directory _) (heq tree hentry ▸ h)
    | ends hnames hentry heq => exact hentry

/-- A path that leads to a writable place leads to the file that is put there. -/
theorem follow_set {start place : Place} {rest : List String} (hstart : Passable start)
    (hplace : Writable names place) (h : tree.follow start rest = .ok place)
    (content : ByteArray) :
    (tree.set names (some content)).follow start rest = .ok (.file names content) := by
  induction rest generalizing start with
  | nil => cases hstart <;> cases h <;> cases hplace
  | cons name rest ih =>
    cases turns_of_follow hstart hplace h with
    | on next hnext heq =>
      rw [heq]
      exact ih hnext (heq tree ▸ h)
    | @enters _ inner hentry heq =>
      have hinner : inner ≠ names := by
        rintro rfl
        exact entry?_of_follow hstart hplace h hentry
      rw [heq _ ((entry?_set_of_ne hinner _).trans hentry)]
      exact ih (.directory _) (heq tree hentry ▸ h)
    | ends hnames hentry heq => exact heq _ content (entry?_set_self hnames content)

theorem locate_set {path : String} {place : Place} (hplace : Writable names place)
    (h : tree.locate path = .ok place) (content : ByteArray) :
    (tree.set names (some content)).locate path = .ok (.file names content) := by
  unfold locate at h ⊢
  split at h
  · cases h
  rename_i hnul
  split at h
  · cases h
  rename_i hempty
  split at h
  · cases h
  rename_i hlength
  rw [if_neg hnul, if_neg hempty, if_neg hlength]
  split at h
  · exact follow_set .outside hplace h content
  · exact follow_set (.directory []) hplace h content

/-- What was written to a file is read from it, by whatever path. -/
theorem read_write {path : String} {content : ByteArray} {changed : FileTree}
    (h : tree.write path content = (.ok (), changed)) : changed.read path = .ok content := by
  unfold write at h
  split at h
  · cases h
  · rename_i names old hplace
    cases h
    rw [read, locate_set (.file old) hplace]
  · rename_i names hplace
    cases h
    rw [read, locate_set .free hplace]
  · cases h
  · cases h
  · cases h

end FileTree

theorem Stage.keepsFiles : KeepsFiles Stage.answer := by
  intro path content s t h
  have hreply : (s.files.write path content).1 = .ok () := congrArg Prod.fst h
  have hfiles : (s.files.write path content).2 = t.files :=
    congrArg (fun answered => answered.2.files) h
  exact FileTree.read_write (Prod.ext hreply hfiles)

namespace TextFile

/-- A step that writes lines, with empty ones at both ends and a carriage return. -/
def writeNotes : Step where
  action := "write"
  payload := [("filename", .ofInt 7), ("write_data", .ofTexts ["", "naïve\r", "", ""])]

/-- A step that reads the same file. -/
def readNotes : Step where
  action := "read"
  payload := [("filename", .text "7")]

theorem read_after_write_notes :
    writeNotes.text? "filename" = some "7" ∧ readNotes.text? "filename" = some "7" ∧
      ∃ t u, (Attempt.invocation {} ⟨.file, "write"⟩ writeNotes).run Stage.answer Stage.empty =
          (.ok .null, t) ∧
        (Attempt.invocation {} ⟨.file, "read"⟩ readNotes).run Stage.answer t =
          (.ok (.ofTexts ["", "naïve\r", "", ""]), u) := by
  have hwrite : writeNotes.text? "filename" = some "7" := rfl
  have hread : readNotes.text? "filename" = some "7" := rfl
  have hrun : ∃ t, (Attempt.invocation {} ⟨.file, "write"⟩ writeNotes).run Stage.answer
      Stage.empty = (.ok .null, t) := ⟨_, rfl⟩
  obtain ⟨t, hwritten⟩ := hrun
  obtain ⟨text, lines, u, -, hlast, -, -, hlines⟩ :=
    read_after_write Stage.keepsFiles {} hwrite hread hwritten
  have hgiven : lines = ["", "naïve\r", "", ""] := hlines _ rfl (by decide) (by decide)
  rw [hgiven] at hlast
  exact ⟨hwrite, hread, t, u, hwritten, hlast⟩

end TextFile

end FlowRunner
