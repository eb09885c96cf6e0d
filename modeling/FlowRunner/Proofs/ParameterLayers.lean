import FlowRunner.Command.Report
import FlowRunner.Proofs.DistinctKeys
import FlowRunner.Proofs.Programs
import FlowRunner.Rehearsal.Stage
import Mathlib.Data.List.TakeWhile

/-!
# Layers of parameters

A flow that is run from the command line has its parameters from three places: the flow itself, a
file, and the command line. `Overrides.Layered` says which value a key has then, and in which order
the keys stand.

* `Overrides.layered_seeded`: the later layer wins, and of the parameters on the command line the
  last one under a name.
* `Command.exists_loaded`: a command that could be carried out has read its workflow and its file.
* `Command.runFile_layered`: such a run starts from the layered store, and a parameter without an
  equals sign ends it while only files have been read.
-/

namespace FlowRunner

variable {σ : Type}

/-- What is left of equal texts is the first one, whether texts are sorted out before or after. -/
theorem eraseDups_filter (keep : String → Bool) (names : List String) :
    (names.filter keep).eraseDups = names.eraseDups.filter keep := by
  -- The induction is on the length, since a first name takes its equals out of the rest.
  induction hlength : names.length using Nat.strong_induction_on generalizing names with
  | _ length ih =>
    cases names with
    | nil => rfl
    | cons name rest =>
      have hshorter : (rest.filter fun other => !other == name).length < length := by
        have := List.length_filter_le (fun other => !other == name) rest
        simp only [List.length_cons] at hlength
        omega
      have hrest := ih _ hshorter (rest.filter fun other => !other == name) rfl
      rw [List.eraseDups_cons]
      by_cases hname : keep name = true
      · rw [List.filter_cons_of_pos hname, List.filter_cons_of_pos hname, List.eraseDups_cons,
          ← hrest, List.filter_filter, List.filter_filter]
        simp only [Bool.and_comm]
      · rw [List.filter_cons_of_neg hname, List.filter_cons_of_neg hname, ← hrest,
          List.filter_filter]
        congr 1
        refine List.filter_congr fun other _ => ?_
        by_cases hother : other = name
        · simp [hother, hname]
        · simp [hother]

theorem eraseDups_of_nodup {names : List String} (h : names.Nodup) : names.eraseDups = names := by
  induction names with
  | nil => rfl
  | cons name rest ih =>
    obtain ⟨hname, hrest⟩ := List.nodup_cons.mp h
    have hothers : (rest.filter fun other => !other == name) = rest := by
      rw [List.filter_eq_self]
      rintro other hother
      simp only [Bool.not_eq_eq_eq_not, Bool.not_true, beq_eq_false_iff_ne]
      rintro rfl
      exact hname hother
    rw [List.eraseDups_cons, hothers, ih hrest]

theorem Store.insertAll_cons (store : Store) (key : String) (value : Value)
    (rest : List (String × Value)) :
    store.insertAll ((key, value) :: rest) = (store.insert key value).insertAll rest := rfl

theorem Store.get?_merge (store other : Store) (key : String) :
    (store.merge other).get? key = (other.get? key <|> store.get? key) := by
  rw [merge, get?_insertAll, Members.get?_reverse other.distinct]
  rfl

/-- The keys of the other store come once each, so that all of the new ones are put behind. -/
theorem Store.keys_merge (store other : Store) :
    (store.merge other).keys = store.keys ++ other.keys.filter fun key => key ∉ store.keys := by
  rw [merge, keys_insertAll, eraseDups_of_nodup (List.Nodup.filter _ other.distinct)]
  rfl

namespace Overrides

/-- The key that a parameter sets: its text before the first equals sign, without blanks around. -/
def nameOf (param : String) : String :=
  String.ofList (Text.trim (param.toList.takeWhile (· != '=')))

/-- What a text is as JSON, or the text. -/
def valueOfText (text : String) : Value :=
  match Value.ofJson text with
  | .ok v => v
  | .error _ => .text text

/-- What a parameter sets its key to, from its text after the first equals sign. -/
def valueOf (param : String) : Value :=
  valueOfText (String.ofList (param.toList.dropWhile (· != '=')).tail)

/-- What parameters set, in turn. -/
def settings (params : List String) : List (String × Value) :=
  params.map fun param => (nameOf param, valueOf param)

theorem settings_cons (param : String) (rest : List String) :
    settings (param :: rest) = (nameOf param, valueOf param) :: settings rest := rfl

theorem keys_settings (params : List String) :
    Members.keys (settings params) = params.map nameOf := by
  simp [Members.keys, settings]

/-- A store has its values from parameters, from a file, and otherwise from a flow of its own. -/
structure Layered (own file : Store) (params : List String) (store : Store) : Prop where
  /-- The last parameter of a name counts. -/
  given : ∀ before param after, params = before ++ param :: after →
    (∀ later ∈ after, nameOf later ≠ nameOf param) →
      store.get? (nameOf param) = some (valueOf param)
  loaded : ∀ key, (∀ param ∈ params, nameOf param ≠ key) → ∀ value,
    file.get? key = some value → store.get? key = some value
  kept : ∀ key, (∀ param ∈ params, nameOf param ≠ key) → file.get? key = none →
    store.get? key = own.get? key
  order : store.keys = own.keys ++ (file.keys.filter fun key => key ∉ own.keys) ++
    ((params.map nameOf).filter fun key => key ∉ own.keys ∧ key ∉ file.keys).eraseDups

theorem withParam_of_mem {param : String} (h : '=' ∈ param.toList) (store : Store) :
    withParam store param = .ok (store.insert (nameOf param) (valueOf param)) := by
  have hsplit := List.takeWhile_append_dropWhile (p := (· != '=')) (l := param.toList)
  have hbefore : '=' ∉ param.toList.takeWhile (· != '=') := fun hmem => by
    simpa using List.mem_takeWhile_imp hmem
  cases hrest : param.toList.dropWhile (· != '=') with
  | nil =>
    rw [hrest, List.append_nil] at hsplit
    rw [hsplit] at hbefore
    exact absurd h hbefore
  | cons sign after =>
    have hsign : sign = '=' := by
      have := List.head?_dropWhile_not (· != '=') param.toList
      rw [hrest] at this
      simpa using this
    subst hsign
    have hcut : Text.cut? '=' param.toList = some (param.toList.takeWhile (· != '='), after) := by
      conv_lhs => rw [← hsplit, hrest]
      exact Text.cut?_append_cons hbefore after
    rw [withParam, hcut]
    dsimp only
    rw [nameOf, valueOf, hrest, List.tail_cons]
    rfl

theorem withParam_of_not_mem {param : String} (h : '=' ∉ param.toList) (store : Store) :
    withParam store param = .error ("Invalid --param '" ++ param ++ "', expected key=value") := by
  rw [withParam, Text.cut?_of_notMem h]

theorem withParams_of_forall {params : List String} (h : ∀ param ∈ params, '=' ∈ param.toList)
    (store : Store) :
    withParams store params = .ok (store.insertAll (settings params)) := by
  induction params generalizing store with
  | nil => rfl
  | cons param rest ih =>
    obtain ⟨hparam, hrest⟩ := List.forall_mem_cons.mp h
    rw [withParams, withParam_of_mem hparam, settings_cons, Store.insertAll_cons]
    exact ih hrest _

theorem withParams_of_malformed {before after : List String} {param : String}
    (hbefore : ∀ earlier ∈ before, '=' ∈ earlier.toList) (h : '=' ∉ param.toList) (store : Store) :
    withParams store (before ++ param :: after) =
      .error ("Invalid --param '" ++ param ++ "', expected key=value") := by
  induction before generalizing store with
  | nil =>
    rw [List.nil_append, withParams, withParam_of_not_mem h]
    rfl
  | cons earlier rest ih =>
    obtain ⟨hearlier, hrest⟩ := List.forall_mem_cons.mp hbefore
    rw [List.cons_append, withParams, withParam_of_mem hearlier]
    exact ih hrest _

theorem exists_first_malformed {params : List String} (h : ∃ param ∈ params, '=' ∉ param.toList) :
    ∃ before param after, params = before ++ param :: after ∧
      (∀ earlier ∈ before, '=' ∈ earlier.toList) ∧ '=' ∉ param.toList := by
  obtain ⟨malformed, hmem, hmalformed⟩ := h
  have hfind : (params.find? fun param => decide ('=' ∉ param.toList)).isSome := by
    rw [List.find?_isSome]
    exact ⟨malformed, hmem, decide_eq_true hmalformed⟩
  obtain ⟨param, hparam⟩ := Option.isSome_iff_exists.mp hfind
  obtain ⟨hfirst, before, after, hsplit, hbefore⟩ := List.find?_eq_some_iff_append.mp hparam
  refine ⟨before, param, after, hsplit, fun earlier hearlier => ?_, of_decide_eq_true hfirst⟩
  simpa using hbefore earlier hearlier

/-- The parameters from the command line over those from a file are the layers over a flow's own
parameters. -/
theorem layered_seeded (own file : Store) (params : List String) :
    Layered own file params (Store.seeded own (some (file.insertAll (settings params)))) := by
  -- A key is looked up among the parameters from the last to the first, then in the file.
  have hget : ∀ key,
      (Store.seeded own (some (file.insertAll (settings params)))).get? key =
        ((Members.get? key (settings params).reverse <|> file.get? key) <|> own.get? key) := by
    intro key
    rw [Store.seeded, Store.get?_merge, Store.get?_insertAll]
  have hunset : ∀ key, (∀ param ∈ params, nameOf param ≠ key) →
      Members.get? key (settings params).reverse = none := by
    intro key hkey
    rw [Members.get?_eq_none_iff, Members.keys_reverse, keys_settings, List.mem_reverse,
      List.mem_map]
    rintro ⟨param, hparam, hname⟩
    exact hkey param hparam hname
  refine ⟨?_, ?_, ?_, ?_⟩
  · rintro before param after rfl hlater
    have hlast : Members.get? (nameOf param) (settings (before ++ param :: after)).reverse =
        some (valueOf param) := by
      rw [Members.get?_eq_some_iff_exists]
      refine ⟨(settings after).reverse, (settings before).reverse, by simp [settings], ?_⟩
      rw [Members.keys_reverse, keys_settings]
      simpa using hlater
    rw [hget, hlast]
    rfl
  · intro key hkey value hvalue
    rw [hget, hunset key hkey, hvalue]
    rfl
  · intro key hkey hnone
    rw [hget, hunset key hkey, hnone]
    rfl
  · have hfilter : ((params.map nameOf).filter fun key => key ∉ own.keys ∧ key ∉ file.keys) =
        ((params.map nameOf).filter fun key => key ∉ file.keys).filter
          fun key => key ∉ own.keys := by
      rw [List.filter_filter]
      simp only [Bool.decide_and]
    rw [Store.seeded, Store.keys_merge, Store.keys_insertAll, keys_settings, List.filter_append,
      ← eraseDups_filter, hfilter, List.append_assoc]

/-- What a file of parameters sets; nothing when there is no file. -/
inductive Sets (answer : Backends σ) (s : σ) : Option String → Store → σ → Prop
  | none : Sets answer s none .empty s
  | some {path text : String} {members : List (String × Value)} {t : σ}
      (hload : (TextFile.load path).run answer s = (.ok text, t))
      (hread : shape.ofYaml? text = some (.object members)) :
      Sets answer s (some path) (.ofPairs members) t

theorem Sets.run_load {answer : Backends σ} {s t : σ} {path : Option String} {file : Store}
    (h : Sets answer s path file t) : (load path).run answer s = (.ok file, t) := by
  cases h with
  | none => rfl
  | some hload hread =>
    simp only [load]
    rw [Script.run_bind, hload]
    simp only [hread, Script.run_done]

theorem Sets.of_run_load {answer : Backends σ} {s t : σ} {path : Option String} {store : Store}
    (h : (load path).run answer s = (.ok store, t)) : Sets answer s path store t := by
  cases path with
  | none =>
    cases h
    exact .none
  | some path =>
    simp only [load] at h
    rw [Script.run_bind] at h
    rcases hload : (TextFile.load path).run answer s with ⟨reply, u⟩
    rw [hload] at h
    cases reply with
    | error e => cases h
    | ok text =>
      simp only [Script.run_done] at h
      split at h
      · rename_i members hread
        cases h
        exact .some hload hread
      · cases h

end Overrides

/-! ## Runs from the command line -/

namespace Command

/-- The workflow and the file of parameters of a run from the command line are read, which leaves
the backends in a state. -/
structure Loaded (answer : Backends σ) (s : σ) (file : String) (paramsFile : Option String)
    (w : Workflow) (given : Store) (t : σ) : Prop where
  present : (answer (.fileKind file) s).1.isSome
  read : ∃ mid, (Loading.loadFile file).run answer (answer (.fileKind file) s).2 = (.ok w, mid) ∧
    Overrides.Sets answer mid paramsFile given t

/-- Goes on with the parameters of a run from the command line, or with what is wrong with them. -/
def runWith (w : Workflow) (config : Option String) : Except String Store → Script Report
  | .error message => .done (.broken "" message [])
  | .ok overrides =>
    (Config.load config).bind fun config =>
      match config with
      | .error (message, causes) => .done (.broken "" message causes)
      | .ok config =>
        (runFlow config w (some overrides)).bind fun outcome => .done (flowReport w outcome)

theorem Loaded.run_runFile {answer : Backends σ} {s t : σ} {file : String}
    {paramsFile : Option String} {w : Workflow} {given : Store}
    (h : Loaded answer s file paramsFile w given t) (params : List String)
    (config : Option String) :
    (runFile file params paramsFile config).run answer s =
      (runWith w config (Overrides.withParams given params)).run answer t := by
  obtain ⟨hpresent, mid, hload, hsets⟩ := h
  have hkind : (answer (.fileKind file) s).1.isNone = false := by
    rw [Option.isNone_eq_false_iff]
    exact hpresent
  rw [runFile, Script.run]
  dsimp only
  rw [hkind, if_neg Bool.false_ne_true, Script.run_bind, hload, Script.run_bind,
    Overrides.ofParams, Script.run_bind, hsets.run_load]
  dsimp only
  cases Overrides.withParams given params <;> rfl

/-- A command that could be carried out has read its workflow and its file of parameters. -/
theorem exists_loaded {answer : Backends σ} {s : σ} {file : String} {params : List String}
    {paramsFile config : Option String}
    (h : ((runFile file params paramsFile config).run answer s).1.code ≠ 2) :
    ∃ w given t, Loaded answer s file paramsFile w given t := by
  rw [runFile, Script.run] at h
  dsimp only at h
  by_cases hkind : (answer (.fileKind file) s).1.isNone
  · rw [if_pos hkind] at h
    exact absurd rfl h
  · rw [if_neg hkind, Script.run_bind] at h
    rcases hload : (Loading.loadFile file).run answer (answer (.fileKind file) s).2
      with ⟨loaded, mid⟩
    rw [hload] at h
    cases loaded with
    | error e => exact absurd rfl h
    | ok w =>
      dsimp only at h
      rw [Script.run_bind, Overrides.ofParams, Script.run_bind] at h
      rcases hgiven : (Overrides.load paramsFile).run answer mid with ⟨given, t⟩
      rw [hgiven] at h
      cases given with
      | error e => exact absurd rfl h
      | ok given =>
        have hpresent : (answer (.fileKind file) s).1.isSome := by
          rw [← Option.not_isNone, Bool.not_eq_true']
          exact Bool.not_eq_true _ ▸ hkind
        exact ⟨w, given, t, hpresent, mid, hload, .of_run_load hgiven⟩

/-- What is asked for before the parameters of a run are known. -/
def readings (file : String) (paramsFile : Option String) : List Effect :=
  .fileKind file :: .readFile file :: paramsFile.toList.map .readFile

theorem ensures_load_of_mem {path : String} {effects : List Effect} (h : .readFile path ∈ effects) :
    (TextFile.load path).Ensures fun log _ => ∀ exchange ∈ log, exchange.effect ∈ effects := by
  refine Script.ensures_bind (Script.ensures_of _) fun log reply hlog => Script.ensures_done ?_
  subst hlog
  simpa using h

theorem ensures_loadFile (file : String) (paramsFile : Option String) :
    (Loading.loadFile file).Ensures fun log _ =>
      ∀ exchange ∈ log, exchange.effect ∈ readings file paramsFile := by
  have hasked : .readFile file ∈ readings file paramsFile := by simp [readings]
  refine Script.ensures_bind (ensures_load_of_mem hasked) fun log reply hlog => ?_
  refine Script.ensures_done ?_
  rwa [List.append_nil]

theorem ensures_ofParams_of_malformed (file : String) (paramsFile : Option String)
    {params : List String} (h : ∃ param ∈ params, '=' ∉ param.toList) :
    (Overrides.ofParams paramsFile params).Ensures fun log overrides =>
      (∀ exchange ∈ log, exchange.effect ∈ readings file paramsFile) ∧
        ∃ message causes, overrides = .error (message, causes) := by
  have hload : (Overrides.load paramsFile).Ensures fun log _ =>
      ∀ exchange ∈ log, exchange.effect ∈ readings file paramsFile := by
    cases paramsFile with
    | none => exact Script.ensures_done (List.forall_mem_nil _)
    | some path =>
      have hasked : .readFile path ∈ readings file (some path) := by simp [readings]
      refine Script.ensures_bind (ensures_load_of_mem hasked) fun log reply hlog => ?_
      refine Script.ensures_done ?_
      rwa [List.append_nil]
  refine Script.ensures_bind hload fun log loaded hlog => Script.ensures_done ?_
  rw [List.append_nil]
  refine ⟨hlog, ?_⟩
  cases loaded with
  | error e => exact ⟨e.1, e.2, rfl⟩
  | ok store =>
    obtain ⟨before, param, after, rfl, hbefore, hparam⟩ := Overrides.exists_first_malformed h
    simp only [Overrides.withParams_of_malformed hbefore hparam]
    exact ⟨_, _, rfl⟩

/-- With a parameter without an equals sign a run ends before anything but files is asked for. -/
theorem ensures_runFile_of_malformed (file : String) {params : List String}
    (paramsFile config : Option String) (h : ∃ param ∈ params, '=' ∉ param.toList) :
    (runFile file params paramsFile config).Ensures fun log report =>
      report.code = 2 ∧ ∀ exchange ∈ log, exchange.effect ∈ readings file paramsFile := by
  refine Script.ensures_ask fun kind => ?_
  have hasked : ∀ exchange ∈ [(⟨.fileKind file, kind⟩ : Exchange)],
      exchange.effect ∈ readings file paramsFile := by
    simp [readings]
  split
  · exact Script.ensures_done ⟨rfl, hasked⟩
  · refine Script.ensures_bind (ensures_loadFile file paramsFile) fun loading loaded hloading => ?_
    cases loaded with
    | error e =>
      refine Script.ensures_done ⟨rfl, ?_⟩
      rw [List.append_nil]
      exact List.forall_mem_append.mpr ⟨hasked, hloading⟩
    | ok w =>
      refine Script.ensures_bind (ensures_ofParams_of_malformed file paramsFile h)
        fun setting overrides hsetting => ?_
      obtain ⟨hreadings, message, causes, rfl⟩ := hsetting
      refine Script.ensures_done ⟨rfl, ?_⟩
      rw [List.append_nil]
      exact List.forall_mem_append.mpr ⟨hasked, List.forall_mem_append.mpr ⟨hloading, hreadings⟩⟩

/-- A run from the command line starts from the workflow's parameters under those of the file under
those of the command line. One of these without an equals sign ends it before any step: nothing but
the files has been asked for. -/
theorem runFile_layered (answer : Backends σ) (s : σ) (file : String) (params : List String)
    (paramsFile config : Option String) :
    (∀ own given, (∀ param ∈ params, '=' ∈ param.toList) →
      ∃ overrides, Overrides.withParams given params = .ok overrides ∧
        Overrides.Layered own given params (Store.seeded own (some overrides))) ∧
    (∀ w given t, Loaded answer s file paramsFile w given t →
      (∀ param ∈ params, '=' ∈ param.toList) →
        ∃ store, Overrides.Layered w.params given params store ∧
          ∀ runner u, (Config.load config).run answer t = (.ok runner, u) →
            (runFile file params paramsFile config).run answer s =
              (((w.runFrom runner store).withSecrets runner.database.secrets).bind
                fun outcome => .done (flowReport w outcome)).run answer u) ∧
    ((∃ param ∈ params, '=' ∉ param.toList) →
      ((runFile file params paramsFile config).run answer s).1.code = 2 ∧
        ∀ exchange ∈ (runFile file params paramsFile config).history answer s,
          exchange.effect ∈ readings file paramsFile) ∧
    (∀ w given t before param after, Loaded answer s file paramsFile w given t →
      params = before ++ param :: after → (∀ earlier ∈ before, '=' ∈ earlier.toList) →
      '=' ∉ param.toList →
        (runFile file params paramsFile config).run answer s =
          (.broken "" ("Invalid --param '" ++ param ++ "', expected key=value") [], t)) := by
  refine ⟨?_, ?_, ?_, ?_⟩
  · intro own given hparams
    exact ⟨_, Overrides.withParams_of_forall hparams _, Overrides.layered_seeded own given params⟩
  · intro w given t hloaded hparams
    refine ⟨_, Overrides.layered_seeded w.params given params, fun runner u hconfig => ?_⟩
    rw [hloaded.run_runFile, Overrides.withParams_of_forall hparams, runWith, Script.run_bind,
      hconfig]
    rfl
  · intro hmalformed
    exact ensures_runFile_of_malformed file paramsFile config hmalformed σ answer s
  · rintro w given t before param after hloaded rfl hbefore hparam
    rw [hloaded.run_runFile, Overrides.withParams_of_malformed hbefore hparam]
    rfl

/-- A stage with a workflow that has parameters of its own and a file with others. -/
def deployStage : Stage :=
  { Stage.empty with files := ⟨[
    (["flow.json"], some "\x7b\"param_store\":\x7b\"env\":\"dev\",\"user\":\"ann\"\x7d\x7d".toUTF8),
    (["params.yaml"], some "env: qa\nregion: eu\n".toUTF8)]⟩ }

/-- Parameters from the command line: one comes twice, and one has further equals signs. -/
def deployParams : List String :=
  ["env=1", "query=a=b", " env =prod"]

theorem runFile_layered_deploy :
    (∃ overrides, Overrides.withParams (.ofPairs [("env", .text "qa")]) deployParams =
        .ok overrides ∧
      Overrides.Layered (.ofPairs [("user", .text "ann")]) (.ofPairs [("env", .text "qa")])
        deployParams (Store.seeded (.ofPairs [("user", .text "ann")]) (some overrides))) ∧
    (∃ w given t store, Loaded Stage.answer deployStage "flow.json" (some "params.yaml") w given t ∧
      Overrides.Layered w.params given deployParams store ∧
      (runFile "flow.json" deployParams (some "params.yaml") none).run Stage.answer deployStage =
        (((w.runFrom {} store).withSecrets []).bind
          fun outcome => .done (flowReport w outcome)).run Stage.answer t) ∧
    (((runFile "flow.json" ["env"] (some "params.yaml") none).run Stage.answer deployStage).1.code =
        2 ∧
      ∃ t, (runFile "flow.json" ["env"] (some "params.yaml") none).run Stage.answer deployStage =
        (.broken "" "Invalid --param 'env', expected key=value" [], t)) := by
  have hparams : ∀ param ∈ deployParams, '=' ∈ param.toList := by decide
  have hmalformed : '=' ∉ "env".toList := by decide
  have hcode : ((runFile "flow.json" deployParams (some "params.yaml") none).run Stage.answer
      deployStage).1.code ≠ 2 := by decide +kernel
  obtain ⟨w, given, t, hloaded⟩ := exists_loaded hcode
  obtain ⟨hpure, hrun, -, -⟩ := runFile_layered Stage.answer deployStage "flow.json" deployParams
    (some "params.yaml") none
  obtain ⟨-, -, hstops, hbroken⟩ := runFile_layered Stage.answer deployStage "flow.json" ["env"]
    (some "params.yaml") none
  obtain ⟨store, hlayered, hfrom⟩ := hrun w given t hloaded hparams
  refine ⟨hpure _ _ hparams, ⟨w, given, t, store, hloaded, hlayered, hfrom {} t rfl⟩,
    (hstops ⟨"env", List.mem_singleton_self _, hmalformed⟩).1, t, ?_⟩
  exact hbroken w given t [] "env" [] hloaded rfl (List.forall_mem_nil _) hmalformed

example :
    ((runFile "flow.json" deployParams (some "params.yaml") none).run Stage.answer
      deployStage).1.output =
        (Value.object [("env", .text "prod"), ("user", .text "ann"), ("region", .text "eu"),
          ("query", .text "a=b")]).pretty ++ "\n" := by
  decide +kernel

end Command

end FlowRunner
