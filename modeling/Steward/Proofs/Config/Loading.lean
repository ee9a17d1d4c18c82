import Steward.Proofs.Config.Checks
import Steward.Proofs.Text.Utf8
/-!
# Configurations that are loaded

A configuration is loaded exactly if the file is read, its text is the document of sound settings,
and there is a password.  The password is what the environment or the password file says, and
whatever the document says in its place is ignored.  As long as there is another fault, it is
reported, and nothing depends on where the password would come from.
-/

set_option autoImplicit false

namespace Steward

/-! ## Members that are not looked for -/

namespace Toml

def without (name : String) : Toml → Toml
  | .table members => .table (members.filter (·.1 != name))
  | other => other

def inside (name : String) (change : Toml → Toml) : Toml → Toml
  | .table members =>
    .table (members.map fun member =>
      (member.1, if member.1 = name then change member.2 else member.2))
  | other => other

end Toml

namespace Record

variable {V : Type}

def fieldNamed? (members : List (String × V)) (name : String) : Option (Option V) :=
  match members.filter (·.1 == name) with
  | [] => some none
  | [(_, value)] => some (some value)
  | _ => none

theorem fieldsByName_eq (fields : List String) (members : List (String × V)) :
    fieldsByName fields members = fields.mapM (fieldNamed? members) := rfl

theorem fieldNamed_filter {name field : String} (other : field ≠ name)
    (members : List (String × V)) :
    fieldNamed? (members.filter (·.1 != name)) field = fieldNamed? members field := by
  have same : (members.filter (·.1 != name)).filter (·.1 == field) =
      members.filter (·.1 == field) := by
    rw [List.filter_filter]
    refine List.filter_congr fun member _ => ?_
    by_cases sought : member.1 = field
    · simp [sought, other]
    · simp [sought]
  rw [fieldNamed?, same, fieldNamed?]

theorem fieldNamed_map (change : String → V → V) (members : List (String × V)) (field : String) :
    fieldNamed? (members.map fun member => (member.1, change member.1 member.2)) field =
      (fieldNamed? members field).map (·.map (change field)) := by
  have moved : (members.map fun member => (member.1, change member.1 member.2)).filter
        (·.1 == field) =
      (members.filter (·.1 == field)).map fun member => (member.1, change member.1 member.2) :=
    List.filter_map ..
  have named : ∀ member ∈ members.filter (·.1 == field), member.1 = field :=
    fun member there => eq_of_beq (List.mem_filter.mp there).2
  rw [fieldNamed?, moved, fieldNamed?]
  cases found : members.filter (·.1 == field) with
  | nil => rfl
  | cons first others =>
      cases others with
      | nil =>
          have same := named first (by simp [found])
          simp [same]
      | cons second others => rfl

theorem fieldsByName_map (change : String → V → V) (members : List (String × V))
    (fields : List String) :
    fieldsByName fields (members.map fun member => (member.1, change member.1 member.2)) =
      (fieldsByName fields members).map
        (List.zipWith (fun field value => value.map (change field)) fields) := by
  simp only [fieldsByName_eq]
  induction fields with
  | nil => rfl
  | cons field fields ih =>
      rw [List.mapM_cons, List.mapM_cons, fieldNamed_map, ih]
      cases fieldNamed? members field with
      | none => rfl
      | some value => cases fields.mapM (fieldNamed? members) <;> rfl

theorem length_fieldsByName {fields : List String} {members : List (String × V)}
    {values : List (Option V)} (found : fieldsByName fields members = some values) :
    values.length = fields.length := by
  rw [fieldsByName_eq] at found
  induction fields generalizing values with
  | nil =>
      cases found
      rfl
  | cons field fields ih =>
      simp only [List.mapM_cons, Option.pure_def, Option.bind_eq_bind, Option.bind_eq_some_iff,
        Option.some.injEq] at found
      obtain ⟨value, -, others, found, rfl⟩ := found
      rw [List.length_cons, List.length_cons, ih found]

theorem fields?_without {fields : List String} {name : String} (ignored : name ∉ fields)
    (document : Toml) : fields? fields (document.without name) = fields? fields document := by
  cases document with
  | table members =>
      change fieldsByName fields (members.filter (·.1 != name)) = fieldsByName fields members
      rw [fieldsByName_eq, fieldsByName_eq]
      induction fields with
      | nil => rfl
      | cons field fields ih =>
          have other : field ≠ name := fun same => ignored (same ▸ List.mem_cons_self)
          rw [List.mapM_cons, List.mapM_cons, fieldNamed_filter other,
            ih fun there => ignored (List.mem_cons_of_mem field there)]
  | _ => rfl

end Record

theorem AccountConfig.ofToml_without (document : Toml) :
    ofToml? (document.without "password") = ofToml? document := by
  rw [ofToml?, Record.fields?_without (by decide), ofToml?]

theorem Config.ofToml_inside {change : Toml → Toml}
    (unseen : ∀ account, AccountConfig.ofToml? (change account) = AccountConfig.ofToml? account)
    (document : Toml) : ofToml? (document.inside "account" change) = ofToml? document := by
  cases document with
  | table members =>
      have moved := Record.fieldsByName_map
        (fun name value => if name = "account" then change value else value) members
      simp only [ofToml?, Record.fields?, Document.named?, Toml.inside, moved]
      cases found : Record.fieldsByName _ members with
      | none => rfl
      | some values =>
          match values, Record.length_fieldsByName found with
          | [remote, account, startup, refresh, scheduler, polling, strategy, health], _ =>
              cases account with
              | none => simp
              | some account => simp [Record.required, unseen]
  | _ => rfl

namespace Config

variable {config : Config} {files : Files} {path : String} {environment : Option Utf8.Octets}

/-- The document without whatever it says in the place of the password. -/
def withoutPassword (document : Toml) : Toml := document.inside "account" (·.without "password")

theorem ofToml_withoutPassword (document : Toml) :
    ofToml? (withoutPassword document) = ofToml? document :=
  ofToml_inside AccountConfig.ofToml_without document

/-! ## The password -/

/-- Where a password comes from: from the environment as it is, or else from the password file
without the blanks around it. -/
inductive PasswordFrom (config : Config) (files : Files) (environment : Option Utf8.Octets)
    (password : String) : Prop where
  | environment (set : environment = some (Utf8.encode password))
  | file (path text : String) (unset : ∀ text, environment ≠ some (Utf8.encode text))
      (named : config.account.passwordFile = some path) (found : files.readText path = .ok text)
      (trimmed : password = Text.trim text)

theorem told_iff {text : String} :
    environment.bind Utf8.decode? = some text ↔ environment = some (Utf8.encode text) := by
  cases environment with
  | none => simp
  | some octets => simp [Utf8.decode?_eq_some_iff]

theorem password_eq_ok_iff {password : String} (nonempty : password ≠ "") :
    config.password files environment = .ok password ↔
      config.PasswordFrom files environment password := by
  unfold Config.password
  cases told : environment.bind Utf8.decode? with
  | some value =>
      simp only [Except.ok.injEq]
      constructor
      · rintro rfl
        exact .environment (told_iff.mp told)
      · rintro (set | ⟨_, _, unset, -, -, -⟩)
        · exact Option.some.inj (told.symm.trans (told_iff.mpr set))
        · exact absurd (told_iff.mp told) (unset value)
  | none =>
      have unset (text : String) : environment ≠ some (Utf8.encode text) := by
        intro set
        cases told.symm.trans (told_iff.mpr set)
      constructor
      · intro found
        cases named : config.account.passwordFile with
        | none =>
            rw [named] at found
            cases found
            exact absurd rfl nonempty
        | some path =>
            cases written : files.readText path with
            | error error => simp [named, written] at found
            | ok text =>
                simp only [named, written, Except.ok.injEq] at found
                exact .file path text unset named written found.symm
      · rintro (set | ⟨path, text, -, named, found, rfl⟩)
        · exact absurd set (unset password)
        · simp only [named, found]

theorem complete_eq_ok_iff {loaded : Config} :
    config.complete files environment = .ok loaded ↔
      ∃ password, password ≠ "" ∧ config.PasswordFrom files environment password ∧
        loaded = config.withPassword password := by
  unfold complete
  constructor
  · intro completed
    split at completed
    next => cases completed
    next password found =>
      split at completed
      next => cases completed
      next nonempty =>
        cases completed
        have nonempty : password ≠ "" := fun same => nonempty (by simp [same])
        exact ⟨password, nonempty, (password_eq_ok_iff nonempty).mp found, rfl⟩
  · rintro ⟨password, nonempty, source, rfl⟩
    rw [(password_eq_ok_iff nonempty).mpr source]
    simp [nonempty]

/-- The faults for which the password is not even looked for. -/
inductive Fault (files : Files) (path : String) : SetupError → Prop where
  | unreadable {error : FileError} (unread : files.readText path = .error error) :
      Fault files path (.io error.message)
  | malformed {text : String} (found : files.readText path = .ok text)
      (noSettings : ∀ document config, Toml.parse? text = some document →
        ofToml? document ≠ some config) : Fault files path .malformed
  | refused {text : String} {document : Toml} {drafted : Config} {passed rest : List Check}
      {error : SetupError} (found : files.readText path = .ok text)
      (parsed : Toml.parse? text = some document) (drafts : ofToml? document = some drafted)
      (first : drafted.checks = passed ++ .error error :: rest)
      (allPassed : ∀ check ∈ passed, check = .ok ()) : Fault files path error

def Drafts (files : Files) (path : String) (drafted : Config) : Prop :=
  ∃ text document, files.readText path = .ok text ∧ Toml.parse? text = some document ∧
    ofToml? document = some drafted ∧ drafted.Sound

theorem fault_or_drafts (files : Files) (path : String) :
    (∃ error, Fault files path error) ∨ ∃ drafted, Drafts files path drafted := by
  cases found : files.readText path with
  | error error => exact .inl ⟨_, .unreadable found⟩
  | ok text =>
      cases settings : (Toml.parse? text).bind ofToml? with
      | none =>
          refine .inl ⟨_, .malformed found fun document config parsed drafts => ?_⟩
          rw [parsed, Option.bind_some, drafts] at settings
          cases settings
      | some drafted =>
          obtain ⟨document, parsed, drafts⟩ := Option.bind_eq_some_iff.mp settings
          cases validated : drafted.validate with
          | error error =>
              obtain ⟨passed, rest, first, allPassed⟩ := firstFault_eq_error_iff.mp validated
              exact .inl ⟨error, .refused found parsed drafts first allPassed⟩
          | ok =>
              exact .inr ⟨drafted, text, document, found, parsed, drafts,
                validate_eq_ok_iff.mp validated⟩

theorem load_of_fault {error : SetupError} (fault : Fault files path error) {other : Files}
    (same : other.readText path = files.readText path) (environment : Option Utf8.Octets) :
    load other path environment = .error error := by
  unfold load
  rw [same]
  cases fault with
  | unreadable unread => rw [unread]
  | malformed found noSettings =>
      have nothing : (Toml.parse? _).bind ofToml? = none :=
        Option.eq_none_iff_forall_ne_some.mpr fun config drafts => by
          obtain ⟨document, parsed, drafts⟩ := Option.bind_eq_some_iff.mp drafts
          exact noSettings document config parsed drafts
      simp only [found, read, nothing]
  | refused found parsed drafts first allPassed =>
      have refused := firstFault_eq_error_iff.mpr ⟨_, _, first, allPassed⟩
      simp only [found, read, parsed, Option.bind_some, drafts, validate, refused]

theorem load_of_drafts {drafted : Config} (drafts : Drafts files path drafted)
    (environment : Option Utf8.Octets) :
    load files path environment = drafted.complete files environment := by
  obtain ⟨text, document, found, parsed, drafts, sound⟩ := drafts
  simp only [load, found, read, parsed, Option.bind_some, drafts, validate_eq_ok_iff.mpr sound]

theorem load_eq_ok_iff :
    load files path environment = .ok config ↔
      ∃ drafted password, Drafts files path drafted ∧ password ≠ "" ∧
        drafted.PasswordFrom files environment password ∧ config = drafted.withPassword password := by
  constructor
  · intro loaded
    rcases fault_or_drafts files path with ⟨error, fault⟩ | ⟨drafted, drafts⟩
    · cases (load_of_fault fault rfl environment).symm.trans loaded
    · rw [load_of_drafts drafts, complete_eq_ok_iff] at loaded
      obtain ⟨password, nonempty, source, rfl⟩ := loaded
      exact ⟨drafted, password, drafts, nonempty, source, rfl⟩
  · rintro ⟨drafted, password, drafts, nonempty, source, rfl⟩
    rw [load_of_drafts drafts, complete_eq_ok_iff]
    exact ⟨password, nonempty, source, rfl⟩

/-! ## What a loaded configuration is -/

theorem validate_withPassword (config : Config) (password : String) :
    (config.withPassword password).validate = config.validate := rfl

/-- At this path stand documents that differ at most in what they say in the place of the
password. -/
def SameSettings (path : String) (files other : Files) : Prop :=
  ∃ text text' document document', files.readText path = .ok text ∧
    other.readText path = .ok text' ∧ Toml.parse? text = some document ∧
    Toml.parse? text' = some document' ∧ withoutPassword document = withoutPassword document'

theorem Drafts.of_sameSettings {drafted : Config} {other : Files}
    (drafts : Drafts files path drafted) (same : SameSettings path files other) :
    Drafts other path drafted := by
  obtain ⟨text, text', document, document', found, found', parsed, parsed', alike⟩ := same
  obtain ⟨_, _, found₀, parsed₀, drafts, sound⟩ := drafts
  cases found.symm.trans found₀
  cases parsed.symm.trans parsed₀
  refine ⟨text', document', found', parsed', ?_, sound⟩
  rw [← ofToml_withoutPassword, ← alike, ofToml_withoutPassword, drafts]

theorem PasswordFrom.of_sameFile {other : Files} {password : String}
    (source : config.PasswordFrom files environment password)
    (same : ∀ file, config.account.passwordFile = some file →
      other.readText file = files.readText file) :
    config.PasswordFrom other environment password := by
  cases source with
  | environment set => exact .environment set
  | file path text unset named found trimmed =>
      exact .file path text unset named ((same path named).trans found) trimmed

/-- A configuration that is safe to run with.  No duty is done again at once or given no time.  A
text in the environment is the password as it is; without one the password stands in the password
file, and what the document says in its place makes no difference. -/
structure Safe (files : Files) (path : String) (environment : Option Utf8.Octets)
    (config : Config) : Prop where
  sound : config.Sound
  duties : ∀ assignment ∈ Duties.assignments config,
    .zero < assignment.timing.interval ∧ .zero < assignment.timing.timeout
  window : config.refresh.fixedWindowSecs = none → ∀ lifetime,
    .ofSeconds config.refresh.floorSecs ≤ config.refresh.window.length lifetime ∧
      config.refresh.window.length lifetime ≤ .ofSeconds config.refresh.ceilingSecs
  password : config.account.password.expose ≠ ""
  verbatim : ∀ text, environment = some (Utf8.encode text) →
    config.account.password.expose = text
  fromFile : (∀ text, environment ≠ some (Utf8.encode text)) →
    ∃ file text, config.account.passwordFile = some file ∧ files.readText file = .ok text ∧
      config.account.password.expose = Text.trim text
  overlooked : ∀ other, SameSettings path files other →
    (∀ file, config.account.passwordFile = some file →
      other.readText file = files.readText file) →
    load other path environment = .ok config

theorem safe_of_load (loaded : load files path environment = .ok config) :
    Safe files path environment config := by
  obtain ⟨drafted, password, drafts, nonempty, source, rfl⟩ := load_eq_ok_iff.mp loaded
  have sound : (drafted.withPassword password).Sound := by
    obtain ⟨_, _, -, -, -, sound⟩ := drafts
    rw [← validate_eq_ok_iff, validate_withPassword, validate_eq_ok_iff]
    exact sound
  refine ⟨sound, fun _ there => sound.assignments there, sound.window, nonempty, ?_, ?_, ?_⟩
  · intro text set
    cases source with
    | environment set' => exact Option.some.inj ((told_iff.mpr set').symm.trans (told_iff.mpr set))
    | file _ _ unset => exact absurd set (unset text)
  · intro unset
    cases source with
    | environment set => exact absurd set (unset password)
    | file file text _ named found trimmed => exact ⟨file, text, named, found, trimmed⟩
  · intro other same sameFile
    exact load_eq_ok_iff.mpr ⟨drafted, password, drafts.of_sameSettings same, nonempty,
      source.of_sameFile sameFile, rfl⟩

/-- Every configuration that is loaded is safe to run with.  Where the file cannot be read, is no
document of settings, or holds settings that do not pass a check, that is reported, and neither the
environment nor any other file makes a difference.  A check that is not passed names the field of a
setting at fault, and of every setting at fault a check complains. -/
theorem load_is_safe (files : Files) (path : String) (environment : Option Utf8.Octets) :
    (∀ config, load files path environment = .ok config →
      Safe files path environment config) ∧
    (∀ error, Fault files path error → ∀ (other : Files) (environment : Option Utf8.Octets),
      other.readText path = files.readText path → load other path environment = .error error) ∧
    ∀ drafted : Config,
      (∀ error, .error error ∈ drafted.checks →
        ∃ field, drafted.Faulty field ∧ ∃ complaint, error = .configuration (field ++ complaint)) ∧
      ∀ field, drafted.Faulty field →
        ∃ complaint, .error (.configuration (field ++ complaint)) ∈ drafted.checks := by
  refine ⟨fun _ loaded => safe_of_load loaded,
    fun _ fault _ environment same => load_of_fault fault same environment, fun drafted => ⟨?_, ?_⟩⟩
  · intro error there
    exact names_of_mem_checks _ there error rfl
  · intro field faulty
    exact complaint_of_faulty faulty

def plainFiles : Files :=
  ⟨[(["plain.toml"], .file ⟨Utf8.encode
    "remote.base_url = 'http://a'\naccount = \x7b username = 'u', password = 'p' \x7d\n", 0, 0⟩)]⟩

example : (load plainFiles "plain.toml" (some (Utf8.encode " q "))).toOption.map
    (·.account.password.expose) = some " q " := by decide +kernel

end Config

end Steward
