import Steward.Endpoint.Accounts
import Steward.Endpoint.Tokens
/-!
# What is lost on the way

The exchange of a call ends where no request can be made, on the way to an answer, or with an
answer.  What is lost before an answer begins may be had by trying again.  What is lost inside the
body of an answer is taken for a content that will not change, and is given up, by both endpoints
and in all their calls alike, whether or not the connection is encrypted.
-/

set_option autoImplicit false

namespace Steward

namespace Net

/-! ## Three ends of an exchange -/

namespace Draft

variable {draft : Draft} {reply : Reply}

def Unbuilt (draft : Draft) : Prop := ∃ failure, draft.build = .error failure

/-- No answer begins: nothing comes back in time, or the connection cannot be made. -/
def Lost (draft : Draft) (reply : Reply) : Prop :=
  ∃ request, draft.build = .ok request ∧
    ∀ status headers octets complete,
      reply ≠ .answered status headers octets complete request.isEncrypted

/-- The answer begins, and this is what there is of it in the end. -/
def Answered (draft : Draft) (reply : Reply) (response : Response) : Prop :=
  ∃ request octets complete, draft.build = .ok request ∧
    reply = .answered response.status response.headers octets complete request.isEncrypted ∧
    response.url = request.url ∧
    response.body =
      if isBodiless response.status then some [] else if complete then some octets else none

/-- The request is granted, but the connection is lost, or the time is over, inside the body. -/
def BrokenOff (draft : Draft) (reply : Reply) : Prop :=
  ∃ request status headers part, draft.build = .ok request ∧
    reply = .answered status headers part false request.isEncrypted ∧
    isSuccess status = true ∧ isBodiless status = false

theorem permanent_of_build_eq_error {failure : TransportFailure}
    (built : draft.build = .error failure) : failure.classification = .permanent := by
  unfold build at built
  split at built
  · cases built
    rfl
  · repeat' split at built
    all_goals cases built
    all_goals rfl

theorem unbuilt_or_lost_or_answered (draft : Draft) (reply : Reply) :
    draft.Unbuilt ∨ draft.Lost reply ∨ ∃ response, draft.Answered reply response := by
  cases built : draft.build with
  | error failure => exact .inl ⟨failure, built⟩
  | ok request =>
      cases reply with
      | dropped => exact .inr (.inl ⟨request, built, nofun⟩)
      | answered status headers octets complete encrypted =>
          by_cases agree : request.isEncrypted = encrypted
          · subst agree
            let body :=
              if isBodiless status then some [] else if complete then some octets else none
            exact .inr (.inr ⟨⟨request.url, status, headers, body⟩, request, octets, complete,
              built, rfl, rfl, rfl⟩)
          · refine .inr (.inl ⟨request, built, ?_⟩)
            rintro _ _ _ _ ⟨⟩
            exact agree rfl

theorem fetch_of_unbuilt (context : String) (reply : Reply) (unbuilt : draft.Unbuilt) :
    ∃ detail, draft.fetch context reply = .error ⟨.permanent, detail⟩ := by
  obtain ⟨failure, built⟩ := unbuilt
  refine ⟨context ++ " request failed: " ++ failure.message, ?_⟩
  rw [fetch, built]
  simp only [Except.bind, permanent_of_build_eq_error built]

theorem fetch_of_lost (context : String) (lost : draft.Lost reply) :
    ∃ detail, draft.fetch context reply = .error ⟨.transient, detail⟩ := by
  obtain ⟨request, built, nothing⟩ := lost
  have sent : request.send reply = .error (.unsent request.url.shown) := by
    cases reply with
    | dropped => rfl
    | answered status headers octets complete encrypted =>
        refine if_neg ?_
        rintro rfl
        exact nothing _ _ _ _ rfl
  refine ⟨context ++ " request failed: " ++ (TransportFailure.unsent request.url.shown).message,
    ?_⟩
  rw [fetch, built]
  simp only [Except.bind, sent, TransportFailure.classification]

theorem fetch_of_answered (context : String) {response : Response}
    (answered : draft.Answered reply response) :
    draft.fetch context reply =
      if isSuccess response.status then .ok response
      else .error (responseError context response.status response.text) := by
  obtain ⟨request, octets, complete, built, came, url, body⟩ := answered
  have sent : request.send reply = .ok response := by
    cases response
    dsimp only at url body came
    rw [came, url, body]
    exact if_pos rfl
  rw [fetch, built]
  simp only [Except.bind, sent]

theorem BrokenOff.answered (broken : draft.BrokenOff reply) :
    ∃ response, draft.Answered reply response ∧ isSuccess response.status = true ∧
      response.body = none := by
  obtain ⟨request, status, headers, part, built, came, success, bodied⟩ := broken
  refine ⟨⟨request.url, status, headers, none⟩, ⟨request, part, false, built, came, rfl, ?_⟩,
    success, rfl⟩
  simp [bodied]

theorem Answered.brokenOff {response : Response} (answered : draft.Answered reply response)
    (success : isSuccess response.status = true) (bodiless : response.body = none) :
    draft.BrokenOff reply := by
  obtain ⟨request, octets, complete, built, came, -, body⟩ := answered
  rw [bodiless] at body
  split at body
  next => cases body
  next bodied =>
    split at body
    next => cases body
    next incomplete =>
      rw [Bool.not_eq_true] at bodied incomplete
      subst incomplete
      exact ⟨request, _, _, octets, built, came, success, bodied⟩

end Draft

/-! ## What comes of an answer -/

def failureClass? {ε α : Type} (classify : ε → Classification) : Except ε α → Option Classification
  | .ok _ => none
  | .error error => some (classify error)

def Response.Understood (understands : Json → Bool) (response : Response) : Prop :=
  ∃ body json, response.body = some body ∧ Json.ofOctets? body = some json ∧
    understands json = true

def Draft.failure? {α : Type} (context : String) (read : Json → Option α) (draft : Draft)
    (reply : Reply) : Option Classification :=
  failureClass? RemoteError.classification
    ((draft.fetch context reply).bind (·.content context read))

section

variable {α : Type} (context : String) {read : Json → Option α} {draft : Draft} {reply : Reply}
  {response : Response}

theorem failureClass_content_of_understood
    (understood : response.Understood fun json => (read json).isSome) :
    failureClass? RemoteError.classification (response.content context read) = none := by
  obtain ⟨body, json, there, parsed, reads⟩ := understood
  obtain ⟨value, reads⟩ := Option.isSome_iff_exists.mp reads
  have decoded : response.decode read = .ok value := by
    simp [Response.decode, there, parsed, reads]
  rw [Response.content, decoded]
  rfl

theorem failureClass_content_of_not_understood
    (misread : ¬ response.Understood fun json => (read json).isSome) :
    failureClass? RemoteError.classification (response.content context read) =
      some .permanent := by
  have nothing : (response.body.bind fun body => (Json.ofOctets? body).bind read) = none := by
    refine Option.eq_none_iff_forall_ne_some.mpr fun value reads => misread ?_
    obtain ⟨body, there, reads⟩ := Option.bind_eq_some_iff.mp reads
    obtain ⟨json, parsed, reads⟩ := Option.bind_eq_some_iff.mp reads
    exact ⟨body, json, there, parsed, Option.isSome_of_eq_some reads⟩
  have decoded : response.decode read = .error (.undecoded response.url.shown) := by
    simp [Response.decode, nothing]
  rw [Response.content, decoded]
  rfl

theorem failure_of_unbuilt (reply : Reply) (unbuilt : draft.Unbuilt) :
    draft.failure? context read reply = some .permanent := by
  obtain ⟨detail, fetched⟩ := draft.fetch_of_unbuilt context reply unbuilt
  rw [Draft.failure?, fetched]
  rfl

theorem failure_of_lost (lost : draft.Lost reply) :
    draft.failure? context read reply = some .transient := by
  obtain ⟨detail, fetched⟩ := draft.fetch_of_lost context lost
  rw [Draft.failure?, fetched]
  rfl

theorem failure_of_refused (answered : draft.Answered reply response)
    (refused : isSuccess response.status = false) :
    draft.failure? context read reply =
      some (classifyStatus response.status response.text) := by
  rw [Draft.failure?, draft.fetch_of_answered context answered, refused]
  rfl

theorem failure_of_granted (answered : draft.Answered reply response)
    (success : isSuccess response.status = true) :
    draft.failure? context read reply =
      failureClass? RemoteError.classification (response.content context read) := by
  rw [Draft.failure?, draft.fetch_of_answered context answered, if_pos success]
  rfl

end

end Net

/-! ## The calls of the two endpoints -/

open Net

inductive RemoteCall where
  | balance (endpoint : AccountEndpoint) (access : Secret)
  | restrictions (endpoint : AccountEndpoint) (access : Secret)
  | transactions (endpoint : AccountEndpoint) (access : Secret) (page size : Nat)
  | login (endpoint : TokenEndpoint) (username : String) (password : Secret) (scope : String)
  | refresh (endpoint : TokenEndpoint) (held : Credential)

namespace RemoteCall

def draft : RemoteCall → Draft
  | .balance endpoint access => endpoint.balanceDraft access
  | .restrictions endpoint access => endpoint.restrictionsDraft access
  | .transactions endpoint access page size => endpoint.transactionsDraft access page size
  | .login endpoint username password scope => endpoint.loginDraft username password scope
  | .refresh endpoint held => endpoint.refreshDraft held

def failure? (reply : Reply) (now : Instant) : RemoteCall → Option Classification
  | .balance endpoint access =>
    failureClass? RemoteError.classification
      (AccountEndpoint.balance (endpoint.balanceDraft access) reply)
  | .restrictions endpoint access =>
    failureClass? RemoteError.classification
      (AccountEndpoint.restrictions (endpoint.restrictionsDraft access) reply)
  | .transactions endpoint access page size =>
    failureClass? RemoteError.classification
      (AccountEndpoint.transactions (endpoint.transactionsDraft access page size) reply)
  | .login endpoint username password scope =>
    failureClass? AuthError.classification (endpoint.login username password scope reply now)
  | .refresh endpoint held =>
    failureClass? AuthError.classification (endpoint.refresh held reply now)

def understands : RemoteCall → Json → Bool
  | .balance .., json => (Balance.ofJson? json).isSome
  | .restrictions .., json => (Restrictions.ofJson? json).isSome
  | .transactions .., json => (Transaction.listOfJson? json).isSome
  | .login .., json | .refresh .., json => (TokenGrant.ofJson? json).isSome

theorem class_transactions (draft : Draft) (reply : Reply) :
    failureClass? RemoteError.classification (AccountEndpoint.transactions draft reply) =
      draft.failure? "transactions" Transaction.listOfJson? reply := by
  unfold AccountEndpoint.transactions Draft.failure?
  cases draft.fetch "transactions" reply with
  | error error => rfl
  | ok response =>
      change failureClass? _ ((response.content _ _).bind _) = failureClass? _ (response.content _ _)
      cases response.content "transactions" Transaction.listOfJson? with
      | error error => rfl
      | ok items => rfl

theorem class_credential (context : String) (draft : Draft) (reply : Reply) (scope : String)
    (now : Instant) :
    failureClass? AuthError.classification
        (TokenEndpoint.credential context draft reply scope now) =
      draft.failure? context TokenGrant.ofJson? reply := by
  unfold TokenEndpoint.credential Draft.failure?
  cases (draft.fetch context reply).bind (·.content context TokenGrant.ofJson?) with
  | error error => exact congrArg some (AuthError.classification_ofRemote error)
  | ok grant => rfl

theorem failure_eq (call : RemoteCall) (reply : Reply) (now : Instant) :
    ∃ (α : Type) (context : String) (read : Json → Option α),
      (call.understands = fun json => (read json).isSome) ∧
      call.failure? reply now = call.draft.failure? context read reply := by
  cases call with
  | balance endpoint access => exact ⟨_, _, _, rfl, rfl⟩
  | restrictions endpoint access => exact ⟨_, _, _, rfl, rfl⟩
  | transactions endpoint access page size => exact ⟨_, _, _, rfl, class_transactions _ _⟩
  | login endpoint username password scope => exact ⟨_, _, _, rfl, class_credential _ _ _ _ _⟩
  | refresh endpoint held => exact ⟨_, _, _, rfl, class_credential _ _ _ _ _⟩

/-- The whole answer has come, and it is not what was asked for. -/
def Misread (call : RemoteCall) (reply : Reply) : Prop :=
  ∃ response, call.draft.Answered reply response ∧ isSuccess response.status = true ∧
    response.body.isSome = true ∧ ¬ response.Understood call.understands

/-- The request is refused, for a reason of this class. -/
def Refused (call : RemoteCall) (reply : Reply) (classification : Classification) : Prop :=
  ∃ response, call.draft.Answered reply response ∧ isSuccess response.status = false ∧
    classifyStatus response.status response.text = classification

def Served (call : RemoteCall) (reply : Reply) : Prop :=
  ∃ response, call.draft.Answered reply response ∧ isSuccess response.status = true ∧
    response.Understood call.understands

variable {call : RemoteCall} {reply : Reply}

/-- What comes of a call, and the class of its failure. -/
inductive Outcome (call : RemoteCall) (reply : Reply) : Option Classification → Prop
  | unbuilt : call.draft.Unbuilt → Outcome call reply (some .permanent)
  | lost : call.draft.Lost reply → Outcome call reply (some .transient)
  | refused {classification} : call.Refused reply classification →
      Outcome call reply (some classification)
  | brokenOff : call.draft.BrokenOff reply → Outcome call reply (some .permanent)
  | misread : call.Misread reply → Outcome call reply (some .permanent)
  | served : call.Served reply → Outcome call reply none

theorem failure_of_outcome {class? : Option Classification} (now : Instant)
    (outcome : call.Outcome reply class?) : call.failure? reply now = class? := by
  obtain ⟨α, context, read, understands, failure⟩ := call.failure_eq reply now
  rw [failure]
  cases outcome with
  | unbuilt unbuilt => exact failure_of_unbuilt context reply unbuilt
  | lost lost => exact failure_of_lost context lost
  | refused refused =>
      obtain ⟨response, answered, refused, rfl⟩ := refused
      exact failure_of_refused context answered refused
  | brokenOff broken =>
      obtain ⟨response, answered, success, bodiless⟩ := broken.answered
      rw [failure_of_granted context answered success]
      refine failureClass_content_of_not_understood context ?_
      rintro ⟨body, -, there, -⟩
      cases bodiless.symm.trans there
  | misread misread =>
      obtain ⟨response, answered, success, -, misread⟩ := misread
      rw [understands] at misread
      rw [failure_of_granted context answered success,
        failureClass_content_of_not_understood context misread]
  | served served =>
      obtain ⟨response, answered, success, understood⟩ := served
      rw [understands] at understood
      rw [failure_of_granted context answered success,
        failureClass_content_of_understood context understood]

theorem exists_outcome (call : RemoteCall) (reply : Reply) :
    ∃ class?, call.Outcome reply class? := by
  rcases call.draft.unbuilt_or_lost_or_answered reply with unbuilt | lost | ⟨response, answered⟩
  · exact ⟨_, .unbuilt unbuilt⟩
  · exact ⟨_, .lost lost⟩
  · cases success : isSuccess response.status with
    | false => exact ⟨_, .refused ⟨response, answered, success, rfl⟩⟩
    | true =>
        by_cases understood : response.Understood call.understands
        · exact ⟨_, .served ⟨response, answered, success, understood⟩⟩
        · cases there : response.body with
          | none => exact ⟨_, .brokenOff (answered.brokenOff success there)⟩
          | some body =>
              exact ⟨_, .misread ⟨response, answered, success, by rw [there]; rfl, understood⟩⟩

theorem failure_eq_iff (call : RemoteCall) (reply : Reply) (now : Instant)
    (class? : Option Classification) :
    call.failure? reply now = class? ↔ call.Outcome reply class? := by
  constructor
  · rintro rfl
    obtain ⟨class?, outcome⟩ := exists_outcome call reply
    rw [failure_of_outcome now outcome]
    exact outcome
  · exact failure_of_outcome now

/-- In all calls of both endpoints, what is lost before an answer begins may pass, and what is lost
inside the body of an answer may not. -/
theorem transient_iff_lost_before_answer (call : RemoteCall) (reply : Reply) (now : Instant) :
    (call.draft.Lost reply → call.failure? reply now = some .transient) ∧
    (call.draft.BrokenOff reply → call.failure? reply now = some .permanent) ∧
    (call.draft.Lost reply ∨ call.draft.BrokenOff reply →
      (call.failure? reply now = some .transient ↔ ¬ call.draft.BrokenOff reply)) ∧
    (call.failure? reply now = some .permanent ↔
      call.draft.Unbuilt ∨ call.draft.BrokenOff reply ∨ call.Misread reply ∨
        call.Refused reply .permanent) ∧
    (call.failure? reply now = none ↔ call.Served reply) := by
  have lost (lost : call.draft.Lost reply) : call.failure? reply now = some .transient :=
    failure_of_outcome now (.lost lost)
  have broken (broken : call.draft.BrokenOff reply) : call.failure? reply now = some .permanent :=
    failure_of_outcome now (.brokenOff broken)
  refine ⟨lost, broken, ?_, ?_, ?_⟩
  · intro onTheWay
    constructor
    · intro transient isBroken
      cases transient.symm.trans (broken isBroken)
    · exact fun whole => lost (onTheWay.resolve_right whole)
  · rw [failure_eq_iff]
    constructor
    · intro outcome
      cases outcome with
      | unbuilt unbuilt => exact .inl unbuilt
      | brokenOff broken => exact .inr (.inl broken)
      | misread misread => exact .inr (.inr (.inl misread))
      | refused refused => exact .inr (.inr (.inr refused))
    · rintro (unbuilt | broken | misread | refused)
      · exact .unbuilt unbuilt
      · exact .brokenOff broken
      · exact .misread misread
      · exact .refused refused
  · rw [failure_eq_iff]
    constructor
    · rintro ⟨⟩
      assumption
    · exact .served

def cutOff : Reply := .answered 200 [] (Utf8.encode "\x7b\x22available\x22:12500,") false

def walletCall : RemoteCall := .balance (.of "http://api.example.com") (.conceal "at_123")

theorem build_walletCall :
    ∃ request, walletCall.draft.build = .ok request ∧ request.isEncrypted = false := by
  have plain : walletCall.draft.build.toOption.map (·.isEncrypted) = some false := by
    decide +kernel
  cases built : walletCall.draft.build with
  | error failure =>
      rw [built] at plain
      cases plain
  | ok request =>
      rw [built] at plain
      exact ⟨request, rfl, Option.some.inj plain⟩

/-- A connection that is lost inside the balance makes a failure that is given up. -/
theorem not_always_transient :
    ¬ ∀ (call : RemoteCall) (reply : Reply) (now : Instant),
      call.draft.Lost reply ∨ call.draft.BrokenOff reply →
        call.failure? reply now = some .transient := by
  intro always
  obtain ⟨request, built, plain⟩ := build_walletCall
  have broken : walletCall.draft.BrokenOff cutOff :=
    ⟨request, 200, [], _, built, by rw [plain]; rfl, rfl, rfl⟩
  have permanent := failure_of_outcome 0 (.brokenOff broken)
  cases permanent.symm.trans (always walletCall cutOff 0 (.inr broken))

end RemoteCall

end Steward
