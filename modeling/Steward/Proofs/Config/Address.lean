import Mathlib.Data.List.DropRight
import Steward.Endpoint.Accounts
import Steward.Endpoint.Tokens
import Steward.Proofs.Config.Loading
/-!
# Where tokens are asked for

The address of the token endpoint is set, or it is derived: the address of the service without the
slashes at its end, and a path behind it.  A set address is checked, and so is the address of the
service, but with the slashes at its end.  What is derived therefore passes the check exactly unless
the address of the service is no more than a scheme and slashes.  There only the scheme and its
colon are left, the first piece of the path is read as a host, and whatever is asked for, the
password of a login with it, goes to a host named `oauth`.
-/

set_option autoImplicit false

namespace Steward

/-! ## Text without the slashes at its end -/

namespace Text

def slashes (count : Nat) : String := String.ofList (List.replicate count '/')

/-- What is left of `text` when there is no slash at its end any more. -/
structure IsStem (stem text : String) : Prop where
  lengthened : ∃ count, text = stem ++ slashes count
  reduced : stem.toList.getLast? ≠ some '/'

variable {stem text : String}

theorem toList_slashes (count : Nat) : (slashes count).toList = List.replicate count '/' :=
  String.toList_ofList

theorem toList_dropTrailingSlashes (text : String) :
    (dropTrailingSlashes text).toList = text.toList.rdropWhile (· == '/') :=
  String.toList_ofList

theorem rdropWhile_of_reduced {chars : List Char} (reduced : chars.getLast? ≠ some '/') :
    chars.rdropWhile (· == '/') = chars := by
  rw [List.rdropWhile_eq_self_iff]
  intro nonempty last
  exact reduced (by rw [List.getLast?_eq_some_getLast nonempty, eq_of_beq last])

theorem IsStem.dropTrailingSlashes_eq (left : IsStem stem text) :
    dropTrailingSlashes text = stem := by
  obtain ⟨count, rfl⟩ := left.lengthened
  have dropped : (stem.toList ++ List.replicate count '/').rdropWhile (· == '/') =
      stem.toList.rdropWhile (· == '/') := by
    rw [List.rdropWhile, List.reverse_append, List.reverse_replicate,
      List.dropWhile_append_of_pos fun c there => beq_iff_eq.mpr (List.eq_of_mem_replicate there),
      List.rdropWhile]
  rw [← String.toList_inj, toList_dropTrailingSlashes, String.toList_append, toList_slashes,
    dropped, rdropWhile_of_reduced left.reduced]

theorem isStem_dropTrailingSlashes (text : String) : IsStem (dropTrailingSlashes text) text := by
  constructor
  · have dropped : ∀ c ∈ text.toList.rtakeWhile (· == '/'), c = '/' :=
      fun c there => eq_of_beq (List.mem_rtakeWhile_imp (p := (· == '/')) there)
    refine ⟨(text.toList.rtakeWhile (· == '/')).length, ?_⟩
    rw [← String.toList_inj, String.toList_append, toList_dropTrailingSlashes, toList_slashes,
      ← List.eq_replicate_of_mem dropped, List.rdropWhile_append_rtakeWhile]
  · rw [toList_dropTrailingSlashes]
    intro slash
    have nonempty := List.ne_nil_of_mem (List.mem_of_getLast? slash)
    refine List.rdropWhile_last_not (· == '/') text.toList nonempty ?_
    rw [List.getLast_of_getLast?_eq_some slash]
    rfl

theorem IsStem.behind (left : IsStem stem text) (nonempty : stem ≠ "") (front : String) :
    IsStem (front ++ stem) (front ++ text) := by
  obtain ⟨count, rfl⟩ := left.lengthened
  refine ⟨⟨count, by rw [String.append_assoc]⟩, ?_⟩
  have last : stem.toList.getLast?.isSome := by
    rwa [Option.isSome_iff_ne_none, Ne, List.getLast?_eq_none_iff, String.toList_eq_nil_iff]
  rw [String.toList_append, List.getLast?_append, Option.or_of_isSome last]
  exact left.reduced

end Text

/-! ## Addresses of the web -/

namespace Config

open Text

def webSchemes : List String := ["http", "https"]

/-- An address that begins with a scheme of the web and its two slashes. -/
def OfWeb (url : String) : Prop := ∃ scheme ∈ webSchemes, ∃ rest, url = scheme ++ "://" ++ rest

/-- An address of the web with nothing but more slashes behind. -/
def SchemeAlone (url : String) : Prop :=
  ∃ scheme ∈ webSchemes, ∃ count, url = scheme ++ "://" ++ slashes count

variable {url stem : String}

theorem mem_webSchemes {scheme : String} :
    scheme ∈ webSchemes ↔ scheme = "http" ∨ scheme = "https" := by
  simp [webSchemes]

theorem isPrefixOf_iff {front : String} :
    front.toList.isPrefixOf url.toList = true ↔ ∃ rest, url = front ++ rest := by
  rw [List.isPrefixOf_iff_prefix]
  constructor
  · rintro ⟨rest, split⟩
    exact ⟨String.ofList rest, by rw [← String.toList_inj, String.toList_append,
      String.toList_ofList, split]⟩
  · rintro ⟨rest, rfl⟩
    exact ⟨rest.toList, String.toList_append.symm⟩

theorem hasHttpScheme_iff : hasHttpScheme url = true ↔ OfWeb url := by
  rw [hasHttpScheme, Bool.or_eq_true, isPrefixOf_iff, isPrefixOf_iff]
  simp only [OfWeb, webSchemes, List.exists_mem_cons_iff, List.not_mem_nil, false_and, exists_false,
    or_false]
  rfl

instance (url : String) : Decidable (OfWeb url) := decidable_of_iff _ hasHttpScheme_iff

theorem requireHttp_eq_ok_iff_ofWeb {field : String} : requireHttp field url = .ok () ↔ OfWeb url :=
  requireHttp_eq_ok_iff.trans hasHttpScheme_iff

theorem OfWeb.append (web : OfWeb url) (path : String) : OfWeb (url ++ path) := by
  obtain ⟨scheme, known, rest, rfl⟩ := web
  exact ⟨scheme, known, rest ++ path, String.append_assoc⟩

theorem isStem_of_schemeAlone (scheme : String) (count : Nat) :
    IsStem (scheme ++ ":") (scheme ++ "://" ++ slashes count) := by
  refine ⟨⟨count + 2, ?_⟩, ?_⟩
  · rw [← String.toList_inj]
    simp [toList_slashes, List.replicate_succ]
  · simp

theorem OfWeb.of_isStem (web : OfWeb url) (more : ¬ SchemeAlone url) (left : IsStem stem url) :
    OfWeb stem := by
  obtain ⟨scheme, known, rest, rfl⟩ := web
  have inner := isStem_dropTrailingSlashes rest
  have nonempty : dropTrailingSlashes rest ≠ "" := by
    intro empty
    obtain ⟨count, all⟩ := inner.lengthened
    rw [empty, String.empty_append] at all
    exact more ⟨scheme, known, count, by rw [all]⟩
  -- The stem of the rest ends that of the whole, so dropping stops before the scheme.
  have whole := inner.behind nonempty (scheme ++ "://")
  rw [← left.dropTrailingSlashes_eq, whole.dropTrailingSlashes_eq]
  exact ⟨scheme, known, _, rfl⟩

theorem not_ofWeb_of_schemeAlone {scheme : String} (known : scheme ∈ webSchemes) :
    ¬ OfWeb (scheme ++ ":" ++ tokenPath) := by
  rcases mem_webSchemes.mp known with rfl | rfl
  · decide
  · decide

theorem ofWeb_derived_iff (web : OfWeb url) (left : IsStem stem url) :
    OfWeb (stem ++ tokenPath) ↔ ¬ SchemeAlone url := by
  constructor
  · rintro derived ⟨scheme, known, count, rfl⟩
    have same := (isStem_of_schemeAlone scheme count).dropTrailingSlashes_eq
    rw [left.dropTrailingSlashes_eq] at same
    exact not_ofWeb_of_schemeAlone known (same ▸ derived)
  · intro more
    exact (web.of_isStem more left).append tokenPath

end Config

/-! ## Requests for tokens -/

namespace Base64

def isPrintable (c : Char) : Bool := 32 ≤ c.toNat && c.toNat < 127

theorem isPrintable_digit (n : Nat) : isPrintable (digit n) = true := by
  have printable : digits.all isPrintable = true := by decide
  unfold digit
  cases there : digits[n % 64]? with
  | none => decide
  | some c => exact List.all_eq_true.mp printable c (List.mem_of_getElem? there)

theorem all_isPrintable_encode (octets : Utf8.Octets) :
    (encode octets).all isPrintable = true := by
  have fill : isPrintable '=' = true := by decide
  fun_induction encode octets with
  | case1 => rfl
  | case2 a n => simp only [List.all_cons, List.all_nil, isPrintable_digit, fill, Bool.and_self]
  | case3 a b n => simp only [List.all_cons, List.all_nil, isPrintable_digit, fill, Bool.and_self]
  | case4 a b c rest n ih => simp only [List.all_cons, isPrintable_digit, ih, Bool.and_self]

end Base64

namespace Net

theorem isHeaderValue_basicHeader (username : String) (password : Option String) :
    isHeaderValue (basicHeader username password).2 = true := by
  rw [isHeaderValue, basicHeader, String.toList_append, List.all_append, Bool.and_eq_true]
  refine ⟨by decide, List.all_eq_true.mpr fun c there => ?_⟩
  rw [String.toList_ofList] at there
  have printable := List.all_eq_true.mp (Base64.all_isPrintable_encode _) c there
  simp only [Base64.isPrintable, Bool.and_eq_true, decide_eq_true_eq] at printable
  simp only [Bool.or_eq_true, Bool.and_eq_true, decide_eq_true_eq, bne_iff_ne]
  omega

end Net

open Net

theorem TokenEndpoint.build_draft {endpoint : TokenEndpoint} {url : Url}
    (parsed : Url.ofText? endpoint.address = some url) (unknown : url.isKnown = false)
    (hosted : url.hasHost = true) (web : isWebScheme url.scheme = true)
    (askable : url.canBeAsked = true) (fields : List (String × String)) :
    (endpoint.draft fields).build =
      .ok ⟨"POST", url, (endpoint.draft fields).headers, Percent.form fields⟩ := by
  have headers : (endpoint.draft fields).headers.all (fun header => isHeaderValue header.2) := by
    simp only [draft, List.all_cons, List.all_nil, isHeaderValue_basicHeader, Bool.true_and]
    decide
  have nobody : withUser url = (url, []) := by simp only [withUser, unknown]
  have address : (endpoint.draft fields).address = endpoint.address := rfl
  simp only [Draft.build, address, parsed, nobody, hosted, headers, web, askable, Bool.not_true]
  rfl

/-- Whatever is asked of the endpoint, a login with its password included, is asked of this host. -/
def TokenEndpoint.Asks (endpoint : TokenEndpoint) (host : String) : Prop :=
  ∀ fields, ∃ request, (endpoint.draft fields).build = .ok request ∧
    request.url.host = some host ∧ request.body = Percent.form fields

/-- Without a host of its own, an address takes the first piece of the path for one. -/
theorem TokenEndpoint.asks_of_schemeAlone {endpoint : TokenEndpoint} {scheme : String}
    (known : scheme ∈ Config.webSchemes)
    (derived : endpoint.address = scheme ++ ":" ++ tokenPath) : endpoint.Asks "oauth" := by
  intro fields
  have web : isWebScheme scheme = true := by
    rcases Config.mem_webSchemes.mp known with rfl | rfl
    · decide
    · decide
  have parsed : Url.ofText? endpoint.address =
      some { Url.bare scheme with host := some "oauth", path := "/token" } := by
    rw [derived]
    -- Only two addresses can be derived so, and both are read by evaluation.
    rcases Config.mem_webSchemes.mp known with rfl | rfl
    · decide +kernel
    · decide +kernel
  exact ⟨_, build_draft parsed rfl rfl web rfl fields, rfl, rfl⟩

namespace Config

open Text

/-- With a configuration that is loaded:

* the address of the token endpoint passes the check of addresses exactly if it is one of the web,
  and it is exactly unless it is derived from a scheme alone;
* one that is set is used as it is;
* one that is derived begins with the same stem of the address of the service as all addresses at
  which the account is asked for;
* what is asked at one that is derived from a scheme alone is asked of a host named `oauth`. -/
theorem token_address_of_web_iff {files : Files} {path : String}
    {environment : Option Utf8.Octets} {config : Config}
    (loaded : load files path environment = .ok config) :
    (∀ field, requireHttp field config.remote.effectiveTokenUrl = .ok () ↔
      OfWeb config.remote.effectiveTokenUrl) ∧
    (OfWeb config.remote.effectiveTokenUrl ↔
      ¬ (config.remote.tokenUrl = none ∧ SchemeAlone config.remote.baseUrl)) ∧
    (∀ url, config.remote.tokenUrl = some url → config.remote.effectiveTokenUrl = url) ∧
    (∃ stem, IsStem stem config.remote.baseUrl ∧
      (config.remote.tokenUrl = none →
        config.remote.effectiveTokenUrl = stem ++ "/oauth/token") ∧
      ∀ (place : String) (access : Secret) (headers : List (String × String)),
        ((AccountEndpoint.of config.remote.baseUrl).draft place access headers).address =
          stem ++ place) ∧
    (config.remote.tokenUrl = none → SchemeAlone config.remote.baseUrl →
      ∀ endpoint : TokenEndpoint, endpoint.address = config.remote.effectiveTokenUrl →
        endpoint.Asks "oauth") := by
  have sound := (safe_of_load loaded).sound
  have base : OfWeb config.remote.baseUrl := hasHttpScheme_iff.mp sound.baseUrl
  have left := isStem_dropTrailingSlashes config.remote.baseUrl
  have derived (unset : config.remote.tokenUrl = none) :
      config.remote.effectiveTokenUrl = dropTrailingSlashes config.remote.baseUrl ++ tokenPath := by
    rw [RemoteConfig.effectiveTokenUrl, unset]
  have given (url : String) (set : config.remote.tokenUrl = some url) :
      config.remote.effectiveTokenUrl = url := by
    rw [RemoteConfig.effectiveTokenUrl, set]
  refine ⟨fun field => requireHttp_eq_ok_iff_ofWeb, ?_, given,
    ⟨_, left, derived, fun place access headers => rfl⟩, ?_⟩
  · cases set : config.remote.tokenUrl with
    | some url =>
        rw [given url set]
        have web : OfWeb url := hasHttpScheme_iff.mp (sound.tokenUrl url set)
        simp [web]
    | none =>
        rw [derived set, ofWeb_derived_iff base left]
        simp
  · rintro unset ⟨scheme, known, count, alone⟩ endpoint address
    refine TokenEndpoint.asks_of_schemeAlone known ?_
    rw [address, derived unset, alone, (isStem_of_schemeAlone scheme count).dropTrailingSlashes_eq]

example : (⟨"https://api.example.com//", none, 30, "web"⟩ : RemoteConfig).effectiveTokenUrl =
    "https://api.example.com/oauth/token" := by decide

def hostless : Config where
  remote := ⟨"http://", none, 30, "web"⟩
  account := ⟨"alice", none, "SCOPE_APP_WEB", false, .conceal "hunter2", none,
    "tenant-secrets.json"⟩
  startup := ⟨1, 300⟩
  refresh := ⟨none, 60, 60, 240, 30⟩
  scheduler := ⟨4, 120⟩
  polling := ⟨60, 300, 3600, 3600, 50⟩
  strategy := none
  health := none

def hostlessFiles : Files :=
  ⟨[([defaultPath], .file ⟨Utf8.encode
    "[remote]\nbase_url = \"http://\"\n\n[account]\nusername = \"alice\"\n", 0, 0⟩)]⟩

theorem load_hostless :
    load hostlessFiles defaultPath (some (Utf8.encode "hunter2")) = .ok hostless := by
  decide +kernel

/-- A login with these settings sends its password to a host named `oauth`. -/
theorem token_address_of_web_iff_hostless :
    load hostlessFiles defaultPath (some (Utf8.encode "hunter2")) = .ok hostless ∧
    hostless.remote.effectiveTokenUrl = "http:/oauth/token" ∧
    ¬ OfWeb hostless.remote.effectiveTokenUrl ∧
    (⟨"http:/oauth/token", "web", .conceal "web"⟩ : TokenEndpoint).Asks "oauth" := by
  obtain ⟨-, web, -, -, asks⟩ := token_address_of_web_iff load_hostless
  have alone : SchemeAlone hostless.remote.baseUrl := ⟨"http", by decide, 0, by decide⟩
  exact ⟨load_hostless, by decide, fun always => web.mp always ⟨rfl, alone⟩,
    asks rfl alone _ (by decide)⟩

theorem not_always_of_web :
    ¬ ∀ (files : Files) (path : String) (environment : Option Utf8.Octets) (config : Config),
      load files path environment = .ok config → OfWeb config.remote.effectiveTokenUrl := by
  intro always
  have web := always _ _ _ _ load_hostless
  revert web
  decide

end Config

end Steward
