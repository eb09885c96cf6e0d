import FlowRunner.Proofs.Statements

/-!
# Calls of database steps

An attempt of a database step makes its statement first, then looks up one secret, and then asks the
database for this statement, once, if the secret has what a connection needs
(`Sql.invocation_asks`). That is `Sql.Provides`: three entries named after the schema, or a user and
a password for a host that the step names. The address of the host may end in a port
(`Connection.Address`).
-/

namespace FlowRunner

namespace Text

theorem cut?_eq_some_iff {sep : Char} {s before after : List Char} :
    cut? sep s = some (before, after) ↔ s = before ++ sep :: after ∧ sep ∉ before := by
  constructor
  · intro h
    refine ⟨eq_of_cut? h, ?_⟩
    induction s generalizing before with
    | nil => cases h
    | cons c rest ih =>
      by_cases hc : c = sep
      · rw [cut?, if_pos hc] at h
        cases h
        exact List.not_mem_nil
      · rw [cut?, if_neg hc, Option.map_eq_some_iff] at h
        obtain ⟨⟨b, a⟩, hrest, heq⟩ := h
        cases heq
        rw [List.mem_cons, not_or]
        exact ⟨Ne.symm hc, ih hrest⟩
  · rintro ⟨rfl, hbefore⟩
    exact cut?_append_cons hbefore after

theorem cutLast?_eq_some_iff {sep : Char} {s before after : List Char} :
    cutLast? sep s = some (before, after) ↔ s = before ++ sep :: after ∧ sep ∉ after := by
  rw [cutLast?, Option.map_eq_some_iff]
  constructor
  · rintro ⟨⟨a, b⟩, hcut, heq⟩
    cases heq
    obtain ⟨hs, ha⟩ := cut?_eq_some_iff.mp hcut
    refine ⟨?_, mt List.mem_reverse.mp ha⟩
    rw [← List.reverse_reverse s, hs]
    simp
  · rintro ⟨rfl, hafter⟩
    refine ⟨(after.reverse, before.reverse), cut?_eq_some_iff.mpr ⟨?_, ?_⟩, ?_⟩
    · simp
    · exact mt List.mem_reverse.mp hafter
    · simp

end Text

namespace Connection

/-- The host and the port that an address names. What follows the last colon is the port, if it is a
number of 16 bits; an address without a port is a host. -/
inductive Address : (address host : String) → (port : Nat) → Prop
  | port {host digits : String} {port : Nat} (hdigits : ':' ∉ digits.toList)
    (hport : Reading.natural? 16 digits.toList = some port) :
    Address (host ++ ":" ++ digits) host port
  | portless {address : String}
    (h : ∀ host digits : String, address = host ++ ":" ++ digits → ':' ∉ digits.toList →
      Reading.natural? 16 digits.toList = none) :
    Address address address 3306

/-- A connection is one to an address, as a user. -/
structure Reaches (connection : Connection) (address user password : String) : Prop where
  address : Address address connection.host connection.port
  user : connection.user = user
  password : connection.password = password

theorem cutLast?_address {address host digits : String} :
    Text.cutLast? ':' address.toList = some (host.toList, digits.toList) ↔
      address = host ++ ":" ++ digits ∧ ':' ∉ digits.toList := by
  rw [Text.cutLast?_eq_some_iff, ← String.toList_inj]
  simp

theorem toHost_of_port {host digits : String} {port : Nat} (hdigits : ':' ∉ digits.toList)
    (hport : Reading.natural? 16 digits.toList = some port) (user password : String) :
    toHost (host ++ ":" ++ digits) user password = ⟨host, port, user, password⟩ := by
  have hcut : Text.cutLast? ':' (host ++ ":" ++ digits).toList =
      some (host.toList, digits.toList) := cutLast?_address.mpr ⟨rfl, hdigits⟩
  simp only [toHost, hcut, Option.bind_eq_bind, Option.bind_some, hport, String.ofList_toList]

theorem toHost_of_portless {address : String}
    (h : ∀ host digits : String, address = host ++ ":" ++ digits → ':' ∉ digits.toList →
      Reading.natural? 16 digits.toList = none) (user password : String) :
    toHost address user password = ⟨address, defaultPort, user, password⟩ := by
  cases hcut : Text.cutLast? ':' address.toList with
  | none => simp only [toHost, hcut, Option.bind_eq_bind, Option.bind_none]
  | some pieces =>
    obtain ⟨host, digits⟩ := pieces
    have hpieces : address = String.ofList host ++ ":" ++ String.ofList digits ∧
        ':' ∉ (String.ofList digits).toList := by
      apply cutLast?_address.mp
      rw [hcut, String.toList_ofList, String.toList_ofList]
    have hport := h _ _ hpieces.1 hpieces.2
    rw [String.toList_ofList] at hport
    simp only [toHost, hcut, Option.bind_eq_bind, Option.bind_some, hport, Option.bind_none]

theorem exists_address (address : String) : ∃ host port, Address address host port := by
  by_cases h : ∃ host digits port, address = host ++ ":" ++ digits ∧ ':' ∉ digits.toList ∧
      Reading.natural? 16 digits.toList = some port
  · obtain ⟨host, digits, port, rfl, hdigits, hport⟩ := h
    exact ⟨host, port, .port hdigits hport⟩
  · refine ⟨address, 3306, .portless fun host digits haddress hdigits => ?_⟩
    rw [Option.eq_none_iff_forall_ne_some]
    intro port hport
    exact h ⟨host, digits, port, haddress, hdigits, hport⟩

theorem toHost_of_address {address host : String} {port : Nat} (h : Address address host port)
    (user password : String) : toHost address user password = ⟨host, port, user, password⟩ := by
  cases h with
  | port hdigits hport => exact toHost_of_port hdigits hport user password
  | portless h => exact toHost_of_portless h user password

theorem reaches_iff {connection : Connection} {address user password : String} :
    connection.Reaches address user password ↔ connection = toHost address user password := by
  constructor
  · rintro ⟨haddress, rfl, rfl⟩
    rw [toHost_of_address haddress]
  · rintro rfl
    obtain ⟨host, port, haddress⟩ := exists_address address
    rw [toHost_of_address haddress]
    exact ⟨haddress, rfl, rfl⟩

-- A number that is no port stays in the host.
example : toHost "db:33070" "u" "p" = ⟨"db", 33070, "u", "p"⟩ ∧
    toHost "db:330700" "u" "p" = ⟨"db:330700", 3306, "u", "p"⟩ := by
  decide +kernel

end Connection

namespace Sql

/-- What a secret holds for a step: the entries for its schema, or those for a user of the host that
it names. -/
inductive Provides (step : Step) (secret : List (String × Value)) :
    (address user password : String) → Prop
  | schema {schema : String} {host user password : Value}
    (hschema : notBlank (step.text? "schema") = some schema)
    (hhost : Members.get? ("test_" ++ schema ++ "_host") secret = some host)
    (huser : Members.get? ("test_" ++ schema ++ "_user") secret = some user)
    (hpassword : Members.get? ("test_" ++ schema ++ "_password") secret = some password) :
    Provides step secret host.plain user.plain password.plain
  | host {host : String} {user password : Value}
    (hschema : notBlank (step.text? "schema") = none)
    (hhost : notBlank (step.text? "host_name") = some host)
    (huser : Members.get? "username" secret = some user)
    (hpassword : Members.get? "password" secret = some password) :
    Provides step secret host user.plain password.plain

theorem entry_eq_ok_iff {name key text : String} {secret : List (String × Value)} :
    entry name secret key = .ok text ↔
      ∃ v, Members.get? key secret = some v ∧ v.plain = text := by
  unfold entry
  cases Members.get? key secret with
  | none => simp
  | some v => simp

theorem entry_of_get? {name key : String} {secret : List (String × Value)} {v : Value}
    (h : Members.get? key secret = some v) : entry name secret key = .ok v.plain :=
  entry_eq_ok_iff.mpr ⟨v, h, rfl⟩

theorem exists_provides_of_connectionFrom {step : Step} {name : String}
    {secret : List (String × Value)} {connection : Connection}
    (h : (ofStep step).connectionFrom name secret = .ok connection) :
    ∃ address user password, Provides step secret address user password ∧
      connection.Reaches address user password := by
  unfold connectionFrom at h
  split at h
  · rename_i schema hschema
    obtain ⟨_, hhost, h⟩ := Except.bind_eq_ok_iff.mp h
    obtain ⟨_, huser, h⟩ := Except.bind_eq_ok_iff.mp h
    obtain ⟨_, hpassword, h⟩ := Except.bind_eq_ok_iff.mp h
    obtain ⟨host, hgetHost, rfl⟩ := entry_eq_ok_iff.mp hhost
    obtain ⟨user, hgetUser, rfl⟩ := entry_eq_ok_iff.mp huser
    obtain ⟨password, hgetPassword, rfl⟩ := entry_eq_ok_iff.mp hpassword
    have hreaches := Connection.reaches_iff.mpr (Except.ok.inj h).symm
    exact ⟨_, _, _, .schema hschema hgetHost hgetUser hgetPassword, hreaches⟩
  · rename_i hschema
    split at h
    · cases h
    · rename_i host hhost
      obtain ⟨_, huser, h⟩ := Except.bind_eq_ok_iff.mp h
      obtain ⟨_, hpassword, h⟩ := Except.bind_eq_ok_iff.mp h
      obtain ⟨user, hgetUser, rfl⟩ := entry_eq_ok_iff.mp huser
      obtain ⟨password, hgetPassword, rfl⟩ := entry_eq_ok_iff.mp hpassword
      have hreaches := Connection.reaches_iff.mpr (Except.ok.inj h).symm
      exact ⟨_, _, _, .host hschema hhost hgetUser hgetPassword, hreaches⟩

theorem connectionFrom_of_provides {step : Step} {secret : List (String × Value)}
    {address user password : String} (h : Provides step secret address user password)
    (name : String) :
    (ofStep step).connectionFrom name secret = .ok (.toHost address user password) := by
  unfold connectionFrom
  cases h with
  | schema hschema hhost huser hpassword =>
    have hfield : (ofStep step).schema = some _ := hschema
    simp only [hfield, entry_of_get? hhost, entry_of_get? huser, entry_of_get? hpassword]
    rfl
  | host hschema hhost huser hpassword =>
    have hfield : (ofStep step).schema = none := hschema
    have hnamed : (ofStep step).host = some _ := hhost
    simp only [hfield, hnamed, entry_of_get? huser, entry_of_get? hpassword]
    rfl

/-! ## The calls of an attempt -/

/-- The call that a database step is there for. -/
def callOf (config : Config.Database) (action text : String) (connection : Connection) : Effect :=
  if action = "select" ∨ action = "count" then .fetchFirst connection text config.readTimeoutSecs
  else .execute connection text config.writeTimeoutSecs

/-- The call for the secret of a step. -/
def lookupOf (config : Config.Database) (step : Step) : Effect :=
  .fetchSecret ((notBlank (step.text? "secret_name")).getD config.defaultSecret)
    (notBlank (step.text? "access_role"))

/-- What an attempt of a database step asks for, and what it is told about the secret. -/
inductive Asks (config : Config.Database) (step : Step) (action : String) : List Exchange → Prop
  | nothing {failure : Failure} (hstatement : (ofStep step).statement action = .error failure) :
    Asks config step action []
  | secret {text : String} (hstatement : (ofStep step).statement action = .ok text)
    {reply : (lookupOf config step).Reply}
    (hnone : ∀ document, reply = .ok document →
      ∀ address user password, ¬ Provides step document address user password) :
    Asks config step action [⟨lookupOf config step, reply⟩]
  | statement {text : String} (hstatement : (ofStep step).statement action = .ok text)
    {document : List (String × Value)} {address user password : String}
    (hprovides : Provides step document address user password) {connection : Connection}
    (hreaches : connection.Reaches address user password)
    (reply : (callOf config action text connection).Reply) :
    Asks config step action
      [⟨lookupOf config step, .ok document⟩, ⟨callOf config action text connection, reply⟩]

theorem reads_iff {action : String} : reads action ↔ action = "select" ∨ action = "count" := by
  simp [reads]

theorem callOf_of_reads {action : String} (h : reads action) (config : Config.Database)
    (text : String) (connection : Connection) :
    callOf config action text connection =
      .fetchFirst connection text config.readTimeoutSecs :=
  if_pos (reads_iff.mp h)

theorem callOf_of_writes {action : String} (h : ¬ reads action) (config : Config.Database)
    (text : String) (connection : Connection) :
    callOf config action text connection = .execute connection text config.writeTimeoutSecs :=
  if_neg (mt reads_iff.mpr h)

/-- The secret is looked up once, and there is a connection just if it provides one. -/
theorem connection_asks (config : Config.Database) (step : Step) :
    ((ofStep step).connection config).run.Ensures fun log outcome =>
      ∃ reply : (lookupOf config step).Reply, log = [⟨lookupOf config step, reply⟩] ∧
        (∀ connection, outcome = .ok connection → ∃ document, reply = .ok document ∧
          ∃ address user password, Provides step document address user password ∧
            connection.Reaches address user password) ∧
        ∀ failure, outcome = .error failure → ∀ document, reply = .ok document →
          ∀ address user password, ¬ Provides step document address user password := by
  refine Program.ensures_backend_bind (Script.ensures_of _) ?_ ?_
  · rintro log document rfl
    refine Script.ensures_done ⟨.ok document, rfl, ?_, ?_⟩
    · intro connection hconnection
      exact ⟨document, rfl, exists_provides_of_connectionFrom hconnection⟩
    · intro failure hfailure _ hdocument address user password hprovides
      cases hdocument
      rw [connectionFrom_of_provides hprovides] at hfailure
      cases hfailure
  · rintro log e rfl
    refine ⟨.error e, rfl, ?_, ?_⟩
    · intro connection hconnection
      cases hconnection
    · intro failure _ document hdocument
      cases hdocument

/-- An attempt of a database step asks for nothing without a statement, for its secret before the
database, and for the statement once, if the secret provides what the connection needs. -/
theorem invocation_asks {σ : Type} (answer : Backends σ) (config : Config) (step : Step)
    (action : String) (s : σ) :
    Asks config.database step action
      ((Attempt.invocation config ⟨.database, action⟩ step).history answer s) := by
  suffices h : (run config.database step action).run.Ensures fun log _ =>
      Asks config.database step action log from h σ answer s
  refine Program.ensures_mk_bind (fun text htext => ?_) fun failure hfailure => .nothing hfailure
  refine Program.ensures_bind (connection_asks config.database step) ?_ ?_
  · rintro log connection ⟨reply, rfl, hok, -⟩
    obtain ⟨document, rfl, address, user, password, hprovides, hreaches⟩ := hok connection rfl
    have hasks : ∀ reply, Asks config.database step action
        [⟨lookupOf config.database step, .ok document⟩,
          ⟨callOf config.database action text connection, reply⟩] :=
      fun reply => .statement htext hprovides hreaches reply
    split
    · rename_i hreads
      rw [callOf_of_reads hreads] at hasks
      exact Program.ensures_backend_map _ fun _ _ _ => hasks _
    · rename_i hwrites
      rw [callOf_of_writes hwrites] at hasks
      exact Program.ensures_backend_map _ fun _ _ _ => hasks _
  · rintro log failure ⟨reply, rfl, -, herror⟩
    exact .secret htext (herror failure rfl)

end Sql

end FlowRunner
