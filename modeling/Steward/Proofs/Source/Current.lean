import Steward.Proofs.Source.Listening
import Steward.Source.Mirror
/-!
# Being up to date

A refresh may store a fingerprint together with contents that were written after it was taken, but
never with older ones.  So if every write gives a fingerprint that was never used before, a refresh
that finds the stored fingerprint again finds nothing newer than the stored contents, and may leave
them.  Whenever a refresh succeeds, the source holds what stood outside at some moment between the
taking of the fingerprint and the end, and if nothing was altered meanwhile, it holds what stands
there now.
-/

set_option autoImplicit false

namespace Steward.Mirror

variable {V E : Type}

/-! ## Steps -/

theorem reading?_keep (mirror : Mirror V E) (call : Nat) (reading : Reading V E) (other : Nat) :
    (mirror.keep call reading).reading? other =
      if other = call then some reading else mirror.reading? other :=
  lookup_placed mirror.readings call other reading

theorem reading?_forget (mirror : Mirror V E) (call other : Nat) :
    (mirror.forget call).reading? other =
      if other = call then none else mirror.reading? other :=
  lookup_forgotten mirror.readings call other

def Event.call? : Event V E → Option Nat
  | .write _ | .remove => none
  | .refresh call | .enter call | .read call _ | .receive call | .drop call => some call

def Event.written? : Event V E → Option String
  | .write version => some version.fingerprint
  | _ => none

variable [DecidableEq V]

/-- Everything an event can do to a mirror. -/
inductive Step (mirror : Mirror V E) : Event V E → Mirror V E → Reply V E → Prop where
  | refused {event : Event V E} : Step mirror event mirror .refused
  | written (version : Version V) :
      Step mirror (.write version) { mirror with original := some version } .altered
  | removed : Step mirror .remove { mirror with original := none } .altered
  | came {call : Nat} {next : Source V} {reply : Source.Reply V E}
      (step : Source.Step mirror.source (.refresh call) next reply) :
      Step mirror (.refresh call) { mirror with source := next } (.source reply)
  | entered {call : Nat} {next : Source V} {reply : Source.Reply V E}
      (step : Source.Step mirror.source (.enter call) next reply) :
      Step mirror (.enter call) { mirror with source := next } (.source reply)
  | read {call : Nat} {failure : Option E} {stage : Source.Stage} {reading : Reading V E}
      (unread : mirror.reading? call = none) (found : mirror.stage? call = some stage)
      (glanced : mirror.glance stage failure = some reading) :
      Step mirror (.read call failure) (mirror.keep call reading) .read
  | received {call : Nat} {reading : Reading V E} {next : Source V} {reply : Source.Reply V E}
      (had : mirror.reading? call = some reading)
      (step : Source.Step mirror.source (reading.event call) next reply) :
      Step mirror (.receive call) { mirror.forget call with source := next } (.source reply)
  | dropped {call : Nat} {next : Source V} {reply : Source.Reply V E}
      (step : Source.Step mirror.source (.drop call) next reply) :
      Step mirror (.drop call) { mirror.forget call with source := next } (.source reply)

theorem step_of_event (mirror : Mirror V E) (event : Event V E) :
    Step mirror event (mirror.step event).1 (mirror.step event).2 := by
  cases event with
  | write version => exact .written version
  | remove => exact .removed
  | refresh call => exact .came (Source.step_of_event _ _)
  | enter call => exact .entered (Source.step_of_event _ _)
  | read call failure =>
      simp only [step]
      split
      · next unread found =>
          split
          · next glanced => exact .read unread found glanced
          · exact .refused
      · exact .refused
  | receive call =>
      simp only [step]
      split
      · next had => exact .received had (Source.step_of_event _ _)
      · exact .refused
  | drop call => exact .dropped (Source.step_of_event _ _)

section Step

variable {mirror next : Mirror V E} {event : Event V E} {reply : Reply V E}

theorem original_of_step (step : Step mirror event next reply) :
    next.original = mirror.original ∨ next.original = none ∨
      ∃ version, event = .write version ∧ next.original = some version := by
  cases step with
  | written version => exact .inr (.inr ⟨version, rfl, rfl⟩)
  | removed => exact .inr (.inl rfl)
  | _ => exact .inl rfl

theorem source_of_step (step : Step mirror event next reply) :
    next.source = mirror.source ∨
      ∃ (sourceEvent : Source.Event V E) (sourceReply : Source.Reply V E),
        Source.Step mirror.source sourceEvent next.source sourceReply ∧
        reply = .source sourceReply := by
  cases step with
  | came step => exact .inr ⟨_, _, step, rfl⟩
  | entered step => exact .inr ⟨_, _, step, rfl⟩
  | received _ step => exact .inr ⟨_, _, step, rfl⟩
  | dropped step => exact .inr ⟨_, _, step, rfl⟩
  | _ => exact .inl rfl

theorem received_of_success {change : Option (Source.Change V)}
    (step : Step mirror event next (.source (.finished (.ok change)))) :
    ∃ call reading, event = .receive call ∧ mirror.reading? call = some reading ∧
      Source.Step mirror.source (reading.event call) next.source (.finished (.ok change)) := by
  cases step with
  | came step => cases step
  | entered step => cases step
  | received had step => exact ⟨_, _, rfl, had, step⟩
  | dropped step => cases step

theorem contents_of_step (step : Step mirror event next reply)
    (unfinished : ∀ change, reply ≠ .source (.finished (.ok change))) :
    next.source.value = mirror.source.value ∧
      next.source.fingerprint = mirror.source.fingerprint := by
  rcases source_of_step step with same | ⟨sourceEvent, sourceReply, moved, rfl⟩
  · rw [same]
    exact ⟨rfl, rfl⟩
  · exact Source.contents_of_step moved fun change same => unfinished change (congrArg _ same)

theorem other_of_step {call : Nat} (step : Step mirror event next reply)
    (other : event.call? ≠ some call) :
    next.stage? call = mirror.stage? call ∧ next.reading? call = mirror.reading? call := by
  have apart : ∀ {own : Nat}, some own ≠ some call → ¬ call = own := fun differs same =>
    differs (congrArg some same.symm)
  cases step with
  | came step => exact ⟨Source.stage?_of_other step fun same => other (congrArg some same), rfl⟩
  | entered step => exact ⟨Source.stage?_of_other step fun same => other (congrArg some same), rfl⟩
  | read => exact ⟨rfl, (reading?_keep _ _ _ _).trans (if_neg (apart other))⟩
  | @received own reading next reply had step =>
      refine ⟨Source.stage?_of_other step fun same => other (congrArg some ?_),
        (reading?_forget _ _ _).trans (if_neg (apart other))⟩
      cases reading <;> exact same
  | dropped step =>
      exact ⟨Source.stage?_of_other step fun same => other (congrArg some same),
        (reading?_forget _ _ _).trans (if_neg (apart other))⟩
  | _ => exact ⟨rfl, rfl⟩

end Step

/-- The life of a mirror is an order of events for it: others write and remove the original, and
refreshes come, go on and go away. -/
abbrev Life (V E : Type) [DecidableEq V] := Run (step (V := V) (E := E)) new

variable {life : Life V E} {n call : Nat}

theorem step_at (life : Life V E) (n : Nat) :
    Step (life.before n) (life.event n) (life.before (n + 1)) (life.reply n) :=
  step_of_event (life.before n) (life.event n)

theorem orderly_before (life : Life V E) (n : Nat) : Source.Orderly (life.before n).source := by
  refine life.holds_of_kept (fun mirror => Source.Orderly mirror.source)
    Source.consistent_new.toOrderly ?_ n
  intro n orderly
  rcases source_of_step (step_at life n) with same | ⟨_, _, moved, _⟩
  · exact same ▸ orderly
  · exact Source.orderly_of_step orderly moved

/-- No two writes give the same fingerprint. -/
def Fresh (life : Life V E) : Prop :=
  ∀ i j fingerprint, (life.event i).written? = some fingerprint →
    (life.event j).written? = some fingerprint → i = j

/-- The same contents stand outside, or none, from event number `k` on up to event number `n`. -/
def Still (life : Life V E) (k n : Nat) : Prop :=
  ∀ m, k ≤ m → m ≤ n → (life.before m).contents? = (life.before k).contents?

theorem Still.shorter {k m : Nat} (still : Still life k n) (le : m ≤ n) : Still life k m :=
  fun l after upTo => still l after (Nat.le_trans upTo le)

theorem Still.contents_eq {k i j : Nat} (still : Still life k n) (first : k ≤ i) (left : i ≤ n)
    (second : k ≤ j) (right : j ≤ n) :
    (life.before i).contents? = (life.before j).contents? :=
  (still i first left).trans (still j second right).symm

theorem written_of_stands {version : Version V}
    (stands : (life.before n).original = some version) :
    ∃ w < n, life.event w = .write version ∧
      ∀ m, w < m → m ≤ n → (life.before m).original = some version := by
  induction n with
  | zero => cases stands
  | succ n ih =>
      rcases original_of_step (step_at life n) with kept | gone | ⟨written, event, now⟩
      · obtain ⟨w, before, event, since⟩ := ih (kept.symm.trans stands)
        refine ⟨w, Nat.lt_succ_of_lt before, event, fun m after upTo => ?_⟩
        rcases Nat.le_succ_iff.mp upTo with earlier | rfl
        · exact since m after earlier
        · exact stands
      · cases gone.symm.trans stands
      · cases now.symm.trans stands
        refine ⟨n, Nat.lt_succ_self n, event, fun m after upTo => ?_⟩
        cases Nat.le_antisymm upTo after
        exact stands

/-- If the same fingerprint is found at two moments, then the same version has stood there all the
time between them. -/
theorem same_of_fingerprint (fresh : Fresh life) {i k : Nat} {fingerprint : String}
    (first : (life.before i).fingerprint? = some fingerprint)
    (second : (life.before k).fingerprint? = some fingerprint) {m : Nat} (after : i ≤ m)
    (upTo : m ≤ k) : (life.before m).original = (life.before k).original := by
  obtain ⟨earlier, stood, rfl⟩ := Option.map_eq_some_iff.mp first
  obtain ⟨later, stands, same⟩ := Option.map_eq_some_iff.mp second
  obtain ⟨w, before, written, _⟩ := written_of_stands stood
  obtain ⟨v, _, rewritten, since⟩ := written_of_stands stands
  cases fresh w v earlier.fingerprint (congrArg Event.written? written)
    ((congrArg Event.written? rewritten).trans (congrArg some same))
  exact (since m (Nat.lt_of_lt_of_le before after) upTo).trans stands.symm

/-! ## What refreshes have seen -/

/-- By event number `k` a refresh of this number takes the fingerprint. -/
def Probes (life : Life V E) (call k : Nat) : Prop :=
  (∃ failure, life.event k = .read call failure) ∧ (life.before k).stage? call = some .probing ∧
    life.reply k = .read

def IsInside (mirror : Mirror V E) (call : Nat) : Prop :=
  ∃ stage, mirror.stage? call = some stage ∧ stage.isInside = true

/-- The refresh that goes under this number before event number `n` has taken the fingerprint by
event number `k`: this was the last time that one was taken under the number, and the refresh has
been inside ever since. -/
structure Probed (life : Life V E) (call n k : Nat) : Prop where
  probes : Probes life call k
  before : k < n
  latest : ∀ m, m < n → Probes life call m → m ≤ k
  inside : ∀ m, k ≤ m → m < n → IsInside (life.before m) call

theorem Probed.later {k : Nat} (probed : Probed life call n k)
    (inside : IsInside (life.before n) call) (quiet : ¬ Probes life call n) :
    Probed life call (n + 1) k := by
  refine ⟨probed.probes, Nat.lt_succ_of_lt probed.before, fun m below probes => ?_,
    fun m after below => ?_⟩
  · rcases Nat.lt_succ_iff_lt_or_eq.mp below with earlier | rfl
    · exact probed.latest m earlier probes
    · exact absurd probes quiet
  · rcases Nat.lt_succ_iff_lt_or_eq.mp below with earlier | rfl
    · exact probed.inside m after earlier
    · exact inside

theorem probed_of_probes (probes : Probes life call n) : Probed life call (n + 1) n := by
  refine ⟨probes, Nat.lt_succ_self n, fun m below _ => Nat.le_of_lt_succ below,
    fun m after below => ?_⟩
  cases Nat.le_antisymm after (Nat.le_of_lt_succ below)
  exact ⟨.probing, probes.2.1, rfl⟩

/-- What a refresh at this stage has read, and when. -/
inductive Seen (life : Life V E) (n call : Nat) : Source.Stage → Option (Reading V E) → Prop where
  | queued : Seen life n call .queued none
  | unread : Seen life n call .probing none
  | unprobed {error : E} : Seen life n call .probing (some (.fingerprint (.error error)))
  | probed {k : Nat} {fingerprint : Option String} (probed : Probed life call n k)
      (stood : (life.before k).fingerprint? = fingerprint) :
      Seen life n call .probing (some (.fingerprint (.ok fingerprint)))
  | asked {k : Nat} {fingerprint : String} (probed : Probed life call n k)
      (stood : (life.before k).fingerprint? = some fingerprint) :
      Seen life n call (.loading fingerprint) none
  | unloaded {k : Nat} {fingerprint : String} {error : E} (probed : Probed life call n k)
      (stood : (life.before k).fingerprint? = some fingerprint) :
      Seen life n call (.loading fingerprint) (some (.contents (.error error)))
  | loaded {k j : Nat} {fingerprint : String} {contents : V} (probed : Probed life call n k)
      (stood : (life.before k).fingerprint? = some fingerprint) (after : k ≤ j) (before : j < n)
      (stands : (life.before j).contents? = some contents) :
      Seen life n call (.loading fingerprint) (some (.contents (.ok contents)))

/-- Nobody has read anything but who is inside, and who is inside has read what stood there. -/
inductive Faithful (life : Life V E) (n call : Nat) :
    Option Source.Stage → Option (Reading V E) → Prop where
  | absent : Faithful life n call none none
  | seen {stage : Source.Stage} {reading : Option (Reading V E)}
      (seen : Seen life n call stage reading) : Faithful life n call (some stage) reading

theorem quiet_of_event {event : Event V E} (happens : life.event n = event)
    (apart : ∀ failure, event ≠ .read call failure) : ¬ Probes life call n :=
  fun ⟨⟨failure, reads⟩, _⟩ => apart failure (happens.symm.trans reads)

section Seen

variable {stage : Source.Stage} {reading : Option (Reading V E)}

theorem Seen.later (seen : Seen life n call stage reading)
    (found : (life.before n).stage? call = some stage) (quiet : ¬ Probes life call n) :
    Seen life (n + 1) call stage reading := by
  cases seen with
  | queued => exact .queued
  | unread => exact .unread
  | unprobed => exact .unprobed
  | probed probed stood => exact .probed (probed.later ⟨_, found, rfl⟩ quiet) stood
  | asked probed stood => exact .asked (probed.later ⟨_, found, rfl⟩ quiet) stood
  | unloaded probed stood => exact .unloaded (probed.later ⟨_, found, rfl⟩ quiet) stood
  | loaded probed stood after before stands =>
      exact .loaded (probed.later ⟨_, found, rfl⟩ quiet) stood after (Nat.lt_succ_of_lt before)
        stands

theorem Seen.forget (seen : Seen life n call stage reading) : Seen life n call stage none := by
  cases seen with
  | queued => exact .queued
  | unread => exact .unread
  | unprobed => exact .unread
  | probed => exact .unread
  | asked probed stood => exact .asked probed stood
  | unloaded probed stood => exact .asked probed stood
  | loaded probed stood => exact .asked probed stood

theorem Faithful.later {stage? : Option Source.Stage}
    (faithful : Faithful life n call stage? reading)
    (found : (life.before n).stage? call = stage?) (quiet : ¬ Probes life call n) :
    Faithful life (n + 1) call stage? reading := by
  cases faithful with
  | absent => exact .absent
  | seen seen => exact .seen (seen.later found quiet)

theorem Faithful.forget {stage? : Option Source.Stage}
    (faithful : Faithful life n call stage? reading) : Faithful life n call stage? none := by
  cases faithful with
  | absent => exact .absent
  | seen seen => exact .seen seen.forget

end Seen

section Own

variable {next : Source V} {reply : Source.Reply V E}

theorem faithful_of_refresh {reading : Option (Reading V E)}
    (faithful : Faithful life n call ((life.before n).stage? call) reading)
    (event : life.event n = .refresh call)
    (step : Source.Step (life.before n).source (.refresh call : Source.Event V E) next reply) :
    Faithful life (n + 1) call (next.stage? call) reading := by
  cases step with
  | refused => exact faithful.later rfl (quiet_of_event event nofun)
  | queued absent =>
      change (life.before n).stage? call = none at absent
      rw [absent] at faithful
      cases faithful
      rw [Source.stage?_place_self]
      exact .seen .queued

theorem faithful_of_enter {reading : Option (Reading V E)}
    (faithful : Faithful life n call ((life.before n).stage? call) reading)
    (event : life.event n = .enter call)
    (step : Source.Step (life.before n).source (.enter call : Source.Event V E) next reply) :
    Faithful life (n + 1) call (next.stage? call) reading := by
  cases step with
  | entered stage =>
      change (life.before n).stage? call = some .queued at stage
      rw [stage] at faithful
      cases faithful with
      | seen seen =>
          cases seen
          rw [Source.stage?_place_self]
          exact .seen .unread
  | _ => exact faithful.later rfl (quiet_of_event event nofun)

theorem seen_of_read {failure : Option E} {stage : Source.Stage} {reading : Reading V E}
    (seen : Seen life n call stage none) (event : life.event n = .read call failure)
    (reply : life.reply n = .read) (found : (life.before n).stage? call = some stage)
    (glanced : (life.before n).glance stage failure = some reading) :
    Seen life (n + 1) call stage (some reading) := by
  cases stage with
  | queued => cases glanced
  | probing =>
      cases failure with
      | some error =>
          cases glanced
          exact .unprobed
      | none =>
          cases glanced
          exact .probed (probed_of_probes ⟨⟨none, event⟩, found, reply⟩) rfl
  | loading fingerprint =>
      have quiet : ¬ Probes life call n := by
        rintro ⟨-, probing, -⟩
        cases found.symm.trans probing
      cases seen with
      | asked probed stood =>
          have probed := probed.later ⟨_, found, rfl⟩ quiet
          cases failure with
          | some error =>
              cases glanced
              exact .unloaded probed stood
          | none =>
              obtain ⟨contents, stands, rfl⟩ := Option.map_eq_some_iff.mp glanced
              exact .loaded probed stood (Nat.le_of_lt_succ probed.before) (Nat.lt_succ_self n)
                stands

theorem faithful_of_receive {reading : Reading V E}
    (faithful : Faithful life n call ((life.before n).stage? call) (some reading))
    (event : life.event n = .receive call)
    (step : Source.Step (life.before n).source (reading.event call) next reply) :
    Faithful life (n + 1) call (next.stage? call) none := by
  have quiet : ¬ Probes life call n := quiet_of_event event nofun
  cases reading with
  | fingerprint answer =>
      cases step with
      | refused => exact faithful.forget.later rfl quiet
      | asked probing =>
          change (life.before n).stage? call = some .probing at probing
          rw [probing] at faithful
          cases faithful with
          | seen seen =>
              cases seen with
              | probed probed stood =>
                  rw [Source.stage?_place_self]
                  exact .seen (.asked (probed.later ⟨_, probing, rfl⟩ quiet) stood)
      | _ =>
          rw [Source.stage?_retire_self]
          exact .absent
  | contents answer =>
      cases step with
      | refused => exact faithful.forget.later rfl quiet
      | _ =>
          rw [Source.stage?_retire_self]
          exact .absent

theorem faithful_of_drop {reading : Option (Reading V E)}
    (faithful : Faithful life n call ((life.before n).stage? call) reading)
    (event : life.event n = .drop call)
    (step : Source.Step (life.before n).source (.drop call : Source.Event V E) next reply) :
    Faithful life (n + 1) call (next.stage? call) none := by
  cases step with
  | refused => exact faithful.forget.later rfl (quiet_of_event event nofun)
  | dropped =>
      rw [Source.stage?_retire_self]
      exact .absent

end Own

theorem faithful_succ
    (faithful : Faithful life n call ((life.before n).stage? call)
      ((life.before n).reading? call)) :
    Faithful life (n + 1) call ((life.before (n + 1)).stage? call)
      ((life.before (n + 1)).reading? call) := by
  have step := step_at life n
  by_cases own : (life.event n).call? = some call
  · have forgotten : ((life.before n).forget call).reading? call = none :=
      (reading?_forget _ _ _).trans (if_pos rfl)
    generalize eventIs : life.event n = event, life.before (n + 1) = next,
      replyIs : life.reply n = reply at step own ⊢
    cases step with
    | refused =>
        refine faithful.later rfl ?_
        rintro ⟨-, -, read⟩
        cases replyIs.symm.trans read
    | written => cases own
    | removed => cases own
    | came step =>
        cases own
        exact faithful_of_refresh faithful eventIs step
    | entered step =>
        cases own
        exact faithful_of_enter faithful eventIs step
    | read unread found glanced =>
        cases own
        rw [unread, found] at faithful
        cases faithful with
        | seen seen =>
            change Faithful life (n + 1) call ((life.before n).stage? call) _
            rw [found, reading?_keep, if_pos rfl]
            exact .seen (seen_of_read seen eventIs replyIs found glanced)
    | received had step =>
        cases own
        rw [had] at faithful
        change Faithful life (n + 1) call _ (((life.before n).forget call).reading? call)
        rw [forgotten]
        exact faithful_of_receive faithful eventIs step
    | dropped step =>
        cases own
        change Faithful life (n + 1) call _ (((life.before n).forget call).reading? call)
        rw [forgotten]
        exact faithful_of_drop faithful eventIs step
  · obtain ⟨stage, reading⟩ := other_of_step step own
    rw [stage, reading]
    exact faithful.later rfl (quiet_of_event rfl fun failure reads =>
      own (congrArg Event.call? reads))

theorem faithful_before (life : Life V E) (n call : Nat) :
    Faithful life n call ((life.before n).stage? call) ((life.before n).reading? call) := by
  induction n with
  | zero => exact .absent
  | succ n ih => exact faithful_succ ih

/-- The stored fingerprint was found, and the stored value stood there at that moment or later. -/
def Dated (life : Life V E) (n : Nat) : Prop :=
  ∀ fingerprint, (life.before n).source.fingerprint = some fingerprint →
    ∃ i j, i ≤ j ∧ j ≤ n ∧ (life.before i).fingerprint? = some fingerprint ∧
      (life.before j).contents? = (life.before n).source.value

/-- What a refresh that has taken the fingerprint by event number `k` does to the source when it
succeeds by event number `n`. -/
inductive Success (life : Life V E) (n k : Nat) : Prop where
  | gone (absent : (life.before k).original = none)
      (value : (life.before (n + 1)).source.value = none)
      (cleared : (life.before (n + 1)).source.fingerprint = none)
  | unchanged {fingerprint : String} (stood : (life.before k).fingerprint? = some fingerprint)
      (same : (life.before n).source.fingerprint = some fingerprint)
      (value : (life.before (n + 1)).source.value = (life.before n).source.value)
      (kept : (life.before (n + 1)).source.fingerprint = some fingerprint)
  | loaded {fingerprint : String} {j : Nat}
      (stood : (life.before k).fingerprint? = some fingerprint)
      (after : k ≤ j) (before : j < n)
      (value : (life.before (n + 1)).source.value = (life.before j).contents?)
      (stored : (life.before (n + 1)).source.fingerprint = some fingerprint)

theorem success_of_reply {change : Option (Source.Change V)}
    (succeeds : life.reply n = .source (.finished (.ok change))) :
    ∃ call k, life.event n = .receive call ∧ IsInside (life.before n) call ∧
      (life.before (n + 1)).stage? call = none ∧ Probed life call n k ∧ Success life n k := by
  have step := step_at life n
  rw [succeeds] at step
  obtain ⟨call, reading, event, had, moved⟩ := received_of_success step
  have faithful := faithful_before life n call
  rw [had] at faithful
  refine ⟨call, ?_⟩
  generalize nextIs : (life.before (n + 1)).source = next at moved
  have gone : (life.before (n + 1)).stage? call = next.stage? call :=
    congrArg (·.stage? call) nextIs
  rw [gone]
  cases reading with
  | fingerprint answer =>
      cases moved with
      | removed stage =>
          change (life.before n).stage? call = some .probing at stage
          rw [stage] at faithful
          cases faithful with
          | seen seen =>
              cases seen with
              | probed probed stood =>
                  exact ⟨_, event, ⟨_, stage, rfl⟩, Source.stage?_retire_self _ _, probed,
                    .gone (Option.map_eq_none_iff.mp stood) (by rw [nextIs]; rfl)
                      (by rw [nextIs]; rfl)⟩
      | unchanged stage same =>
          change (life.before n).stage? call = some .probing at stage
          rw [stage] at faithful
          cases faithful with
          | seen seen =>
              cases seen with
              | probed probed stood =>
                  exact ⟨_, event, ⟨_, stage, rfl⟩, Source.stage?_retire_self _ _, probed,
                    .unchanged stood same (by rw [nextIs]; rfl) (by rw [nextIs]; exact same)⟩
  | contents answer =>
      cases moved with
      | replaced stage =>
          change (life.before n).stage? call = some (.loading _) at stage
          rw [stage] at faithful
          cases faithful with
          | seen seen =>
              cases seen with
              | loaded probed stood after before stands =>
                  exact ⟨_, event, ⟨_, stage, rfl⟩, Source.stage?_retire_self _ _, probed,
                    .loaded stood after before (by rw [nextIs, stands]; rfl) (by rw [nextIs]; rfl)⟩

theorem dated_before (life : Life V E) (n : Nat) : Dated life n := by
  induction n with
  | zero => exact nofun
  | succ n ih =>
      intro fingerprint stored
      by_cases succeeds : ∃ change, life.reply n = .source (.finished (.ok change))
      · obtain ⟨change, succeeds⟩ := succeeds
        obtain ⟨call, k, -, -, -, probed, success⟩ := success_of_reply succeeds
        cases success with
        | gone absent value cleared => cases cleared.symm.trans stored
        | unchanged stood same value kept =>
            cases kept.symm.trans stored
            obtain ⟨i, j, le, upTo, found, had⟩ := ih _ same
            exact ⟨i, j, le, Nat.le_succ_of_le upTo, found, had.trans value.symm⟩
        | loaded stood after before value kept =>
            cases kept.symm.trans stored
            exact ⟨k, _, after, Nat.le_succ_of_le (Nat.le_of_lt before), stood, value.symm⟩
      · have kept := contents_of_step (step_at life n) fun change same => succeeds ⟨change, same⟩
        rw [kept.2] at stored
        obtain ⟨i, j, le, upTo, found, had⟩ := ih fingerprint stored
        exact ⟨i, j, le, Nat.le_succ_of_le upTo, found, had.trans kept.1.symm⟩

/-- If the same has stood outside since the fingerprint was taken, a refresh that succeeds leaves
the source with that. -/
theorem value_of_success (fresh : Fresh life) {k : Nat} (before : k < n)
    (success : Success life n k) (still : Still life k n) :
    (life.before (n + 1)).source.value = (life.before n).contents? := by
  have first : (life.before k).contents? = (life.before n).contents? :=
    still.contents_eq (Nat.le_refl k) before.le before.le (Nat.le_refl n)
  cases success with
  | gone absent value cleared =>
      rw [value, ← first, contents?, absent]
      rfl
  | unchanged stood same value kept =>
      obtain ⟨i, j, le, upTo, found, had⟩ := dated_before life n _ same
      rw [value, ← had]
      rcases Nat.le_total k j with later | earlier
      · exact still.contents_eq later upTo before.le (Nat.le_refl n)
      · -- The stored value stood there between two moments with the same fingerprint.
        have stays := same_of_fingerprint fresh found stood le earlier
        exact (congrArg (Option.map Version.contents) stays).trans first
  | loaded stood after early value stored =>
      rw [value]
      exact still.contents_eq after early.le before.le (Nat.le_refl n)

/-- Whoever succeeds after a refresh is over has taken the fingerprint after that, since only one is
inside at a time. -/
theorem probed_after {l m call other : Nat} (inside : IsInside (life.before n) call)
    (gone : (life.before (n + 1)).stage? call = none) (after : n < m)
    (otherInside : IsInside (life.before m) other) (probed : Probed life other m l) : n < l := by
  refine Nat.lt_of_not_le fun early => ?_
  obtain ⟨stage, found, inner⟩ := inside
  obtain ⟨otherStage, otherFound, otherInner⟩ := probed.inside n early after
  cases (orderly_before life n).inside_unique found inner otherFound otherInner
  obtain ⟨last, lastFound, -⟩ : IsInside (life.before (n + 1)) call := by
    rcases Nat.lt_or_eq_of_le (Nat.succ_le_of_lt after) with sooner | rfl
    · exact probed.inside (n + 1) (Nat.le_succ_of_le early) sooner
    · exact otherInside
  cases gone.symm.trans lastFound

/-! ## No change is missed -/

/-- If every write gives a fingerprint of its own, then a refresh that succeeds has taken the
fingerprint before.  From its end on, and as long as the contents outside are those of that moment,
the source holds them, or nothing if nothing stands there. -/
theorem change_never_missed (life : Life V E) (fresh : Fresh life) {n : Nat}
    {change : Option (Source.Change V)}
    (succeeds : life.reply n = .source (.finished (.ok change))) :
    ∃ call k, life.event n = .receive call ∧ Probed life call n k ∧
      ∀ m, n < m → Still life k m →
        (life.before m).source.value = (life.before m).contents? := by
  obtain ⟨call, k, event, inside, gone, probed, success⟩ := success_of_reply succeeds
  have early : k ≤ n := probed.before.le
  refine ⟨call, k, event, probed, ?_⟩
  intro m after
  induction m, after using Nat.le_induction with
  | base =>
      intro still
      have upTo : n ≤ n + 1 := Nat.le_succ n
      rw [still.contents_eq (Nat.le_succ_of_le early) (Nat.le_refl _) early upTo]
      exact value_of_success fresh probed.before success (still.shorter upTo)
  | succ m after ih =>
      intro still
      have upTo : m ≤ m + 1 := Nat.le_succ m
      have since : k ≤ m := by omega
      rw [still.contents_eq (Nat.le_succ_of_le since) (Nat.le_refl _) since upTo]
      by_cases again : ∃ change, life.reply m = .source (.finished (.ok change))
      · obtain ⟨change, again⟩ := again
        obtain ⟨other, l, -, otherInside, -, otherProbed, success⟩ := success_of_reply again
        have later : n < l := probed_after inside gone after otherInside otherProbed
        refine value_of_success fresh otherProbed.before success fun i le below => ?_
        exact (still i (by omega) (by omega)).trans
          (still l (by omega) (by have := otherProbed.before; omega)).symm
      · have kept := contents_of_step (step_at life m) fun change same => again ⟨change, same⟩
        exact kept.1.trans (ih (still.shorter upTo))

/-- The second version is written after the first fingerprint was taken and before the contents are
read, so that it is stored with the fingerprint of the first. -/
def overtaken : Life String String := .ofList
  [.write ⟨"1", "buy"⟩, .refresh 0, .enter 0, .read 0 none, .receive 0, .write ⟨"2", "sell"⟩,
    .read 0 none, .receive 0, .refresh 1, .enter 1, .read 1 none, .receive 1, .read 1 none,
    .receive 1] (.refresh 0)

theorem fresh_overtaken : Fresh overtaken := by
  have early : ∀ i, (overtaken.event i).written? ≠ none → i < 14 := by
    intro i writes
    refine Nat.lt_of_not_le fun beyond => writes ?_
    rw [overtaken, Run.event_ofList_rest _ beyond]
    rfl
  have apart : ∀ i < 14, ∀ j < 14, (overtaken.event i).written? ≠ none →
      (overtaken.event i).written? = (overtaken.event j).written? → i = j := by decide
  intro i j fingerprint first second
  have writes : (overtaken.event i).written? ≠ none := by rw [first]; exact nofun
  exact apart i (early i writes) j (early j (by rw [second]; exact nofun)) writes
    (first.trans second.symm)

theorem change_never_missed_overtaken :
    (overtaken.before 8).source.fingerprint = some "1" ∧
    (overtaken.before 8).source.value = some "sell" ∧
    overtaken.reply 13 = .source (.finished (.ok none)) ∧
    ∃ call k, overtaken.event 13 = .receive call ∧ Probed overtaken call 13 k ∧
      ∀ m, 13 < m → Still overtaken k m →
        (overtaken.before m).source.value = (overtaken.before m).contents? :=
  ⟨by decide, by decide, rfl, change_never_missed overtaken fresh_overtaken rfl⟩

end Steward.Mirror
