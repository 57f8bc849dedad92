import Mathlib.Tactic.Common
import SiteStats.Session

/-!
# What a session shares

A session makes four things, each on demand and on top of the ones before it: a client needs the
configuration, a gateway needs a client and the configuration, and reports need a gateway.  Any of
the four may be asked for first, the environment may be different at every call, and a call may
fail three levels down.  Here it is shown that the things nevertheless always belong together
(`Session.run_shares`): what is kept was made with what is kept besides it, it is kept for good, and
a call that fails has made nothing.

The four calls have one shape: a slot that is filled answers at once, and one that is empty is
filled with what `make` gives.  That is said by `ask_of_kept` and `ask_of_empty`, and nothing after
them looks into a call again.  What can be relied on is then stated once, in `Sound`, and climbs
from a slot to the next: `Linked.answers_of_makes` takes it from `make` to `ask`, and the four
lemmas `Linked.makes_…` take it from `ask` on one slot to `make` on the slot above.

Whether a call fails depends on the configuration alone.  That is why `Sound` says exactly when a
call fails and not only what holds then: it is what makes the second thing that a gateway needs come
without a failure, and what makes a call succeed after the environment has been put right.
-/

namespace SiteStats

/-- What is made for a slot. -/
abbrev Slot.Thing : Slot → Type
  | .config => Config
  | .client => Client
  | .gateway => GatewayParts
  | .reports => ReportsParts

/-- How far up a slot is; what is made for it needs slots further down only. -/
def Slot.level : Slot → Nat
  | .config => 0
  | .client => 1
  | .gateway => 2
  | .reports => 3

namespace Session

/-! ## Slots -/

/-- What is kept in a slot. -/
def kept (session : Session) : (slot : Slot) → Option (Made slot.Thing)
  | .config => session.config
  | .client => session.client
  | .gateway => session.gateway
  | .reports => session.reports

/-- Puts a thing into a slot. -/
def put (session : Session) : (slot : Slot) → Made slot.Thing → Session
  | .config, made => { session with config := some made }
  | .client, made => { session with client := some made }
  | .gateway, made => { session with gateway := some made }
  | .reports, made => { session with reports := some made }

/-- A session in another environment and with another environment file. -/
def within (session : Session) (environment : Environment) (file : String) : Session :=
  { session with environment, file }

lemma holds_eq (session : Session) (slot : Slot) :
    session.holds slot = (session.kept slot).isSome := by
  cases slot <;> rfl

@[simp] lemma kept_within (session : Session) (environment : Environment) (file : String) :
    (session.within environment file).kept = session.kept := by
  funext slot
  cases slot <;> rfl

@[simp] lemma kept_stamp {α : Type} (session : Session) (thing : α) :
    (session.stamp thing).2.kept = session.kept := by
  funext slot
  cases slot <;> rfl

@[simp] lemma kept_put_self (session : Session) (slot : Slot) (made : Made slot.Thing) :
    (session.put slot made).kept slot = some made := by
  cases slot <;> rfl

lemma kept_put_of_ne (session : Session) {slot other : Slot} (h : other ≠ slot)
    (made : Made slot.Thing) : (session.put slot made).kept other = session.kept other := by
  cases slot <;> cases other <;> first | rfl | exact absurd rfl h

/-- What holds of a thing and of all that was kept holds of all that is kept once it is put there.
-/
lemma of_kept_put {P : (slot : Slot) → Made slot.Thing → Prop} {session : Session} {slot : Slot}
    {made : Made slot.Thing} (hmade : P slot made)
    (hkept : ∀ {other made'}, session.kept other = some made' → P other made')
    {other : Slot} {made' : Made other.Thing}
    (h : (session.put slot made).kept other = some made') : P other made' := by
  by_cases hother : other = slot
  · subst hother
    rw [kept_put_self, Option.some_inj] at h
    rwa [← h]
  · rw [kept_put_of_ne session hother] at h
    exact hkept h

@[simp] lemma nextStamp_put (session : Session) (slot : Slot) (made : Made slot.Thing) :
    (session.put slot made).nextStamp = session.nextStamp := by
  cases slot <;> rfl

/-! ## Calls -/

/-- Asks for what is kept in a slot. -/
def ask (session : Session) : (slot : Slot) → Except Failure (Made slot.Thing) × Session
  | .config => session.requireConfig
  | .client => session.requireClient
  | .gateway => session.requireGateway
  | .reports => session.requireReports

/-- What an empty slot is filled with, not stamped yet. -/
def make (session : Session) : (slot : Slot) → Except Failure slot.Thing × Session
  | .config =>
    let (environment, result) := session.environment.configure session.file
    (result, session.within environment session.file)
  | .client =>
    let (config, session) := session.ask .config
    (config.map fun config => ⟨config.value.timeout⟩, session)
  | .gateway =>
    match session.ask .client with
    | (.error failure, session) => (.error failure, session)
    | (.ok client, session) =>
      let (config, session) := session.ask .config
      (config.map fun config => ⟨client, config⟩, session)
  | .reports =>
    let (gateway, session) := session.ask .gateway
    (gateway.map fun gateway => ⟨gateway⟩, session)

variable {session after : Session} {slot : Slot}

lemma ask_of_kept {made : Made slot.Thing} (h : session.kept slot = some made) :
    session.ask slot = (.ok made, session) := by
  cases slot <;> simp only [kept] at h <;>
    simp [ask, requireConfig, requireClient, requireGateway, requireReports, h]

lemma ask_of_empty (h : session.kept slot = none) :
    session.ask slot = match session.make slot with
      | (.error failure, session) => (.error failure, session)
      | (.ok thing, session) =>
        let (made, session) := session.stamp thing
        (.ok made, session.put slot made) := by
  cases slot with simp only [kept] at h
  | config =>
    obtain ⟨environment, file, nextStamp, config, client, gateway, reports⟩ := session
    subst h
    simp only [ask, requireConfig, make]
    cases environment.configure file with
    | mk environment result => cases result <;> rfl
  | client =>
    simp only [ask, requireClient, make, h]
    cases session.requireConfig with
    | mk config session => cases config <;> rfl
  | gateway =>
    simp only [ask, requireGateway, make, h]
    cases session.requireClient with
    | mk client session =>
      cases client with
      | error failure => rfl
      | ok client =>
        dsimp only
        cases session.requireConfig with
        | mk config session => cases config <;> rfl
  | reports =>
    simp only [ask, requireReports, make, h]
    cases session.requireGateway with
    | mk gateway session => cases gateway <;> rfl

/-! ## What belongs together -/

/-- A thing fits a session that keeps what it was made with. -/
def Fits (session : Session) : (slot : Slot) → slot.Thing → Prop
  | .config, _ => True
  | .client, client =>
    ∃ config, session.kept .config = some config ∧ client.timeout = config.value.timeout
  | .gateway, gateway =>
    session.kept .client = some gateway.client ∧ session.kept .config = some gateway.config
  | .reports, reports => session.kept .gateway = some reports.gateway

/-- Whatever is kept fits the session, and its stamp is not one to be given yet. -/
structure Linked (session : Session) : Prop where
  fits : ∀ {slot made}, session.kept slot = some made → session.Fits slot made.value
  stamped : ∀ {slot made}, session.kept slot = some made → made.stamp < session.nextStamp

/-- What is kept stays, and no stamp is given twice. -/
structure Grows (session after : Session) : Prop where
  kept : ∀ {slot made}, session.kept slot = some made → after.kept slot = some made
  nextStamp : session.nextStamp ≤ after.nextStamp

lemma Grows.refl (session : Session) : session.Grows session := ⟨id, Nat.le_refl _⟩

lemma Grows.trans {between : Session} (h : session.Grows between) (h' : between.Grows after) :
    session.Grows after :=
  ⟨fun hkept => h'.kept (h.kept hkept), Nat.le_trans h.nextStamp h'.nextStamp⟩

lemma grows_within (session : Session) (environment : Environment) (file : String) :
    session.Grows (session.within environment file) :=
  ⟨fun hkept => by rwa [kept_within], Nat.le_refl _⟩

lemma Fits.mono {thing : slot.Thing} (h : session.Fits slot thing)
    (hkept : ∀ {slot made}, session.kept slot = some made → after.kept slot = some made) :
    after.Fits slot thing := by
  cases slot with
  | config => trivial
  | client =>
    obtain ⟨config, hconfig, htimeout⟩ := h
    exact ⟨config, hkept hconfig, htimeout⟩
  | gateway => exact ⟨hkept h.1, hkept h.2⟩
  | reports => exact hkept h

lemma Linked.within (h : session.Linked) (environment : Environment) (file : String) :
    (session.within environment file).Linked where
  fits hkept := by
    rw [kept_within] at hkept
    exact (h.fits hkept).mono (grows_within session environment file).kept
  stamped hkept := by
    rw [kept_within] at hkept
    exact h.stamped hkept

/-- Everything is made on top of the configuration, so that there is one as soon as there is
anything. -/
lemma Linked.exists_config (h : session.Linked) {made : Made slot.Thing}
    (hkept : session.kept slot = some made) : ∃ config, session.kept .config = some config := by
  cases slot with
  | config => exact ⟨made, hkept⟩
  | client =>
    obtain ⟨config, hconfig, -⟩ := h.fits hkept
    exact ⟨config, hconfig⟩
  | gateway => exact ⟨_, (h.fits hkept).2⟩
  | reports => exact ⟨_, (h.fits (h.fits hkept)).2⟩

/-- What fits may be stamped and put into its slot if that is empty. -/
lemma Linked.put {thing : slot.Thing} (h : session.Linked) (hempty : session.kept slot = none)
    (hfits : session.Fits slot thing) :
    ((session.stamp thing).2.put slot (session.stamp thing).1).Linked ∧
      session.Grows ((session.stamp thing).2.put slot (session.stamp thing).1) := by
  generalize hafter : (session.stamp thing).2.put slot (session.stamp thing).1 = after
  have hgrows : session.Grows after := by
    subst hafter
    constructor
    · intro other made hkept
      have hne : other ≠ slot := by
        rintro rfl
        simp [hempty] at hkept
      rw [kept_put_of_ne _ hne, kept_stamp, hkept]
    · simp [Session.stamp]
  refine ⟨⟨fun hkept => ?_, fun hkept => ?_⟩, hgrows⟩
  · rw [← hafter] at hkept
    refine of_kept_put (P := fun slot made => after.Fits slot made.value)
      (hfits.mono hgrows.kept) (fun hbefore => ?_) hkept
    rw [kept_stamp] at hbefore
    exact (h.fits hbefore).mono hgrows.kept
  · rw [← hafter] at hkept
    refine of_kept_put (P := fun _ made => made.stamp < after.nextStamp) ?_
      (fun hbefore => ?_) hkept
    · simp [← hafter, Session.stamp]
    · rw [kept_stamp] at hbefore
      exact Nat.lt_of_lt_of_le (h.stamped hbefore) hgrows.nextStamp

/-! ## What can be relied on -/

/-- What can be relied on when something is asked of a session: `outcome` is what comes back with
the session after it, in which whatever comes back is as `expected`, and in which slots from `level`
on are as before. -/
structure Sound {α : Type} (session : Session) (level : Nat) (expected : α → Session → Prop)
    (outcome : Except Failure α × Session) : Prop where
  linked : outcome.2.Linked
  grows : session.Grows outcome.2
  above : ∀ {slot : Slot}, level ≤ slot.level → outcome.2.kept slot = session.kept slot
  expected : ∀ thing, outcome.1 = .ok thing → expected thing outcome.2
  unchanged : ∀ failure, outcome.1 = .error failure → outcome.2.kept = session.kept
  fails_iff : ∀ failure, outcome.1 = .error failure ↔
    session.kept .config = none ∧
      (session.environment.configure session.file).2 = .error failure

/-- What a slot is filled with can be relied on to fit, and to leave the slot alone as yet. -/
def Makes (session : Session) (slot : Slot) : Prop :=
  Sound session slot.level (fun thing after => after.Fits slot thing) (session.make slot)

/-- What a slot answers can be relied on to be what is kept there afterwards. -/
def Answers (session : Session) (slot : Slot) : Prop :=
  Sound session (slot.level + 1) (fun made after => after.kept slot = some made) (session.ask slot)

/-- Something may be made of what comes back. -/
lemma Sound.map {α β : Type} {level : Nat} {expected : α → Session → Prop}
    {expected' : β → Session → Prop} {outcome : Except Failure α × Session}
    (h : Sound session level expected outcome) (f : α → β)
    (hf : ∀ a, expected a outcome.2 → expected' (f a) outcome.2) :
    Sound session level expected' (outcome.1.map f, outcome.2) := by
  obtain ⟨result, after⟩ := outcome
  have herror : ∀ failure, result.map f = .error failure ↔ result = .error failure := by
    cases result <;> simp [Except.map]
  refine ⟨h.linked, h.grows, h.above, ?_, ?_, ?_⟩
  · intro b hb
    cases result with
    | error failure => cases hb
    | ok a =>
      cases hb
      exact hf a (h.expected a rfl)
  · exact fun failure hfailure => h.unchanged failure ((herror failure).mp hfailure)
  · exact fun failure => (herror failure).trans (h.fails_iff failure)

/-- If what an empty slot is filled with can be relied on, then so can the answer of the slot. -/
lemma Linked.answers_of_makes (hlinked : session.Linked)
    (hmakes : session.kept slot = none → session.Makes slot) : session.Answers slot := by
  unfold Answers
  cases hkept : session.kept slot with
  | some made =>
    obtain ⟨config, hconfig⟩ := hlinked.exists_config hkept
    rw [ask_of_kept hkept]
    refine ⟨hlinked, .refl session, fun _ => rfl, ?_, ?_, ?_⟩
    · rintro _ ⟨⟩
      exact hkept
    · rintro _ ⟨⟩
    · simp [hconfig]
  | none =>
    have hmake := hmakes hkept
    unfold Makes at hmake
    rw [ask_of_empty hkept]
    rcases hmade : session.make slot with ⟨failure | thing, after⟩
    · rw [hmade] at hmake
      refine ⟨hmake.linked, hmake.grows, ?_, ?_, fun _ _ => hmake.unchanged failure rfl, ?_⟩
      · exact fun hlevel => hmake.above (by omega)
      · rintro _ ⟨⟩
      · simpa using hmake.fails_iff
    · rw [hmade] at hmake
      have hempty : after.kept slot = none := by rw [hmake.above (Nat.le_refl _), hkept]
      obtain ⟨hlinked', hgrows⟩ := hmake.linked.put hempty (hmake.expected thing rfl)
      refine ⟨hlinked', hmake.grows.trans hgrows, ?_, ?_, ?_, ?_⟩
      · intro other hlevel
        have hne : other ≠ slot := by
          rintro rfl
          omega
        rw [kept_put_of_ne _ hne, kept_stamp, hmake.above (by omega)]
      · rintro _ ⟨⟩
        exact kept_put_self ..
      · rintro _ ⟨⟩
      · simpa using hmake.fails_iff

/-- The environment is changed even if no configuration comes of it, but nothing that is kept. -/
lemma Linked.makes_config (h : session.Linked) (hempty : session.kept .config = none) :
    session.Makes .config := by
  unfold Makes make
  refine ⟨h.within .., grows_within .., ?_, fun _ _ => trivial, ?_, ?_⟩
  · intro slot _
    rw [kept_within]
  · intro failure _
    rw [kept_within]
  · simp [hempty]

lemma Linked.makes_client (h : session.Linked) : session.Makes .client := by
  have hconfig : session.Answers .config := h.answers_of_makes h.makes_config
  exact hconfig.map _ fun config hkept => ⟨config, hkept, rfl⟩

/-- Once there is a client there is a configuration, so that only the client can be the cause of a
failure. -/
lemma Linked.makes_gateway (h : session.Linked) : session.Makes .gateway := by
  have hclient : session.Answers .client := h.answers_of_makes fun _ => h.makes_client
  unfold Answers at hclient
  unfold Makes make
  rcases hasked : session.ask .client with ⟨failure | client, after⟩
  · rw [hasked] at hclient
    refine ⟨hclient.linked, hclient.grows, hclient.above, ?_, ?_, ?_⟩
    · rintro _ ⟨⟩
    · exact fun _ _ => hclient.unchanged failure rfl
    · simpa using hclient.fails_iff
  · rw [hasked] at hclient
    have hkept : after.kept .client = some client := hclient.expected client rfl
    obtain ⟨config, hconfig⟩ := hclient.linked.exists_config hkept
    dsimp only
    rw [ask_of_kept hconfig]
    refine ⟨hclient.linked, hclient.grows, hclient.above, ?_, ?_, ?_⟩
    · rintro _ ⟨⟩
      exact ⟨hkept, hconfig⟩
    · rintro _ ⟨⟩
    · simpa [Except.map] using hclient.fails_iff

lemma Linked.makes_reports (h : session.Linked) : session.Makes .reports := by
  have hgateway : session.Answers .gateway := h.answers_of_makes fun _ => h.makes_gateway
  exact hgateway.map _ fun _ hkept => hkept

/-- Every call can be relied on in a session whose things belong together. -/
theorem Linked.answers (h : session.Linked) (slot : Slot) : session.Answers slot := by
  refine h.answers_of_makes fun hempty => ?_
  cases slot with
  | config => exact h.makes_config hempty
  | client => exact h.makes_client
  | gateway => exact h.makes_gateway
  | reports => exact h.makes_reports

/-! ## Runs -/

/-- What happens to a session: its surroundings change, or something is asked of it. -/
inductive Event where
  | surroundings (environment : Environment) (file : String)
  | call (slot : Slot)

/-- A session after an event. -/
def step (session : Session) : Event → Session
  | .surroundings environment file => session.within environment file
  | .call slot => (session.ask slot).2

/-- A session after a number of events, in their order. -/
def run (session : Session) (events : List Event) : Session :=
  events.foldl step session

lemma linked_empty : empty.Linked where
  fits {slot made} hkept := by cases slot <;> cases hkept
  stamped {slot made} hkept := by cases slot <;> cases hkept

/-- An event neither tears apart what belongs together nor takes anything away. -/
lemma Linked.step (h : session.Linked) (event : Event) :
    (session.step event).Linked ∧ session.Grows (session.step event) := by
  cases event with
  | surroundings environment file =>
    exact ⟨h.within environment file, grows_within session environment file⟩
  | call slot => exact ⟨(h.answers slot).linked, (h.answers slot).grows⟩

/-- Neither do any number of events. -/
lemma Linked.run (h : session.Linked) (events : List Event) :
    (session.run events).Linked ∧ session.Grows (session.run events) := by
  induction events generalizing session with
  | nil => exact ⟨h, .refl session⟩
  | cons event events ih =>
    obtain ⟨hlinked, hgrows⟩ := h.step event
    obtain ⟨hlinked', hgrows'⟩ := ih hlinked
    exact ⟨hlinked', hgrows.trans hgrows'⟩

/-- Without a configuration, every call depends on whether one can be had. -/
lemma Linked.exists_ask_iff (h : session.Linked) (hempty : session.kept .config = none)
    (slot : Slot) : (∃ made, (session.ask slot).1 = .ok made) ↔
      ∃ config, (session.environment.configure session.file).2 = .ok config := by
  have hfails := (h.answers slot).fails_iff
  simp only [hempty, true_and] at hfails
  cases hasked : (session.ask slot).1 with
  | error failure => simp [(hfails failure).mp hasked]
  | ok made =>
    cases hconfigure : (session.environment.configure session.file).2 with
    | error failure => simp [(hfails failure).mpr hconfigure] at hasked
    | ok config => simp

lemma Linked.holds_all (h : session.Linked) {reports : Made ReportsParts}
    (hreports : session.kept .reports = some reports) (slot : Slot) : session.holds slot := by
  have hgateway : session.kept .gateway = some reports.value.gateway := h.fits hreports
  obtain ⟨hclient, hconfig⟩ := h.fits hgateway
  rw [holds_eq]
  cases slot with
  | config => simp [hconfig]
  | client => simp [hclient]
  | gateway => simp [hgateway]
  | reports => simp [hreports]

/-- **A session shares what it makes.**  Whatever has been asked for, and however the environment
and its file have changed meanwhile: what is kept belongs together, and stays for good.  A call that
gives something gives what is kept from then on.  A call that fails leaves all four slots as they
were, and the same call in other surroundings succeeds exactly when these give a configuration.
A call for reports that succeeds leaves no slot empty. -/
theorem run_shares (events : List Event) :
    let session := empty.run events
    session.Linked ∧
      (∀ slot made, session.kept slot = some made →
        ∀ more, (session.run more).kept slot = some made) ∧
      (∀ slot made, (session.ask slot).1 = .ok made →
        (session.ask slot).2.kept slot = some made) ∧
      (∀ slot failure, (session.ask slot).1 = .error failure →
        (session.ask slot).2.kept = session.kept ∧
          ∀ environment file,
            (∃ made, (((session.ask slot).2.within environment file).ask slot).1 = .ok made) ↔
              ∃ config, (environment.configure file).2 = .ok config) ∧
      (∀ reports, (session.ask .reports).1 = .ok reports →
        ∀ slot, (session.ask .reports).2.holds slot) := by
  intro session
  have hlinked : session.Linked := (linked_empty.run events).1
  refine ⟨hlinked, ?_, ?_, ?_, ?_⟩
  · intro slot made hkept more
    exact (hlinked.run more).2.kept hkept
  · intro slot made hasked
    exact (hlinked.answers slot).expected made hasked
  · intro slot failure hasked
    have hanswers := hlinked.answers slot
    have hunchanged := hanswers.unchanged failure hasked
    have hempty := ((hanswers.fails_iff failure).mp hasked).1
    refine ⟨hunchanged, fun environment file => ?_⟩
    have hlater := hanswers.linked.within environment file
    exact hlater.exists_ask_iff (by rw [kept_within, hunchanged, hempty]) slot
  · intro reports hasked slot
    have hanswers := hlinked.answers .reports
    exact hanswers.linked.holds_all (hanswers.expected reports hasked) slot

-- Reports are asked for without a key, and again when there is one.
example :
    let site := ("PLAUSIBLE_SITE_ID", "example.com")
    let session := empty.run [.surroundings [site] "", .call .reports]
    session.holds .config = false ∧
      (session.run [.surroundings [site, ("PLAUSIBLE_API_KEY", "key")] "",
        .call .reports]).holds .reports = true := by
  decide +kernel

end Session

end SiteStats
