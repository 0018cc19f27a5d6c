import Mathlib.Data.List.Infix
import RowAccess.Proofs.Store.Laws
import RowAccess.Token.Gate

/-!
Contract: the gate binds a request as a whole or not at all.

A resolution of a presented token has changed nothing in its store until its
last call. Every call may fail, and then the resolution ends there. So an error
leaves the context as it was, and the store too unless an expired token was
removed; only a resolution that made all its calls binds a principal.

Owns:
- which token a header presents.
- how far a resolution has come, kept by each call, and how it can end.
- the effect of the gate on context, store and audit trail.
-/

namespace RowAccess

/-! ## Headers -/

/-- Whether a header presents a token: it is short enough, and it is the scheme,
one space and the token. -/
def GateSettings.Presents (settings : GateSettings) (header : Option String)
    (token : TokenValue) : Prop :=
  ∃ text, header = some text ∧ text.utf8ByteSize ≤ settings.maxHeaderBytes ∧
    text = settings.scheme ++ " " ++ token.text

theorem GateSettings.token?_eq_some_iff {settings : GateSettings} {text : String}
    {token : TokenValue} :
    settings.token? text = some token ↔
      text.utf8ByteSize ≤ settings.maxHeaderBytes ∧
        text = settings.scheme ++ " " ++ token.text := by
  have written : ∀ rest : List Char,
      settings.lead ++ rest = text.toList ↔
        text = settings.scheme ++ " " ++ String.ofList rest := by
    intro rest
    rw [← String.toList_inj]
    simp [GateSettings.lead, eq_comm]
  unfold GateSettings.token?
  split
  next tooLong =>
    constructor
    · intro read
      cases read
    · intro short
      omega
  next short =>
    rw [Option.map_eq_some_iff]
    constructor
    · rintro ⟨rest, cut, rfl⟩
      have wording := (written rest).1 (List.isPrefixOf?_eq_some_iff_append_eq.1 cut)
      exact ⟨Nat.le_of_not_lt short, wording⟩
    · rintro ⟨_, wording⟩
      refine ⟨token.text.toList, ?_, by simp⟩
      exact List.isPrefixOf?_eq_some_iff_append_eq.2 ((written _).2 (by simpa using wording))

theorem GateSettings.bind_token?_eq_some_iff {settings : GateSettings} {header : Option String}
    {token : TokenValue} :
    header.bind settings.token? = some token ↔ settings.Presents header token := by
  rw [Option.bind_eq_some_iff]
  constructor
  · rintro ⟨text, present, read⟩
    obtain ⟨short, wording⟩ := GateSettings.token?_eq_some_iff.1 read
    exact ⟨text, present, short, wording⟩
  · rintro ⟨text, present, short, wording⟩
    exact ⟨text, present, GateSettings.token?_eq_some_iff.2 ⟨short, wording⟩⟩

/-! ## Resolutions -/

namespace GatePhase

variable {σ : Type} [CredentialStore σ] {now : Instant} {phase : GatePhase}

theorem eq_settled {outcome : Except TokenError Principal} (ended : phase.outcome? = some outcome) :
    phase = .settled outcome := by
  cases phase with
  | settled other =>
      cases ended
      rfl
  | _ => cases ended

theorem resolve_of_unsettled (store : σ) (unsettled : phase.outcome? = none) :
    phase.resolve now store = (phase.step now store).1.resolve now (phase.step now store).2 := by
  rw [resolve]
  split
  next outcome settled =>
    rw [unsettled] at settled
    cases settled
  next => rfl

/-- What every call keeps, a resolution keeps to its end. -/
theorem resolve_keeps {Keeps : GatePhase → σ → Prop}
    (kept : ∀ current held, Keeps current held →
      Keeps (current.step now held).1 (current.step now held).2)
    {store : σ} (holds : Keeps phase store) :
    Keeps (.settled (phase.resolve now store).1) (phase.resolve now store).2 := by
  fun_induction GatePhase.resolve now phase store with
  | case1 current held outcome ended => exact eq_settled ended ▸ holds
  | case2 current held unsettled _made inductionHypothesis =>
      exact inductionHypothesis (kept current held holds)

end GatePhase

open CredentialLaws (stored)
open DirectoryLaws (known)

section Resolutions

variable {σ : Type} [CredentialStore σ] [CredentialLaws σ] [DirectoryLaws σ]

/-- Whether two stores show the same credentials and principals. -/
structure Unchanged (before after : σ) : Prop where
  credentials : stored after = stored before
  principals : known after = known before

/-- Whether one of the calls that resolve a token would fail on a store. -/
inductive CallFails (token : TokenValue) (now : Instant) (store : σ) (error : StoreError) : Prop
  | find (failed : (CredentialStore.find token store).1 = .error error)
  | delete (failed : (CredentialStore.deleteIfExists token store).1 = .error error)
  | load (owner : PrincipalId) (failed : (CredentialStore.load owner store).1 = .error error)
  | touch (failed : (CredentialStore.touch token now store).1 = .error error)

/-- How the resolution of a token can end, and what it leaves of the store that it
began in. -/
inductive Resolves (start : σ) (now : Instant) (token : TokenValue) :
    Except TokenError Principal → σ → Prop
  | notFound {store : σ} (absent : stored start token = none) (same : Unchanged start store) :
      Resolves start now token (.error (.notFound token)) store
  | expired {store : σ} {credential : Credential} (found : stored start token = some credential)
      (due : credential.isExpired now = true)
      (removed : stored store = Function.update (stored start) token none)
      (principals : known store = known start) :
      Resolves start now token (.error (.expired token credential.expiresAt)) store
  | ownerMissing {store : σ} {credential : Credential}
      (found : stored start token = some credential) (live : credential.isExpired now = false)
      (unowned : known start credential.owner = none) (same : Unchanged start store) :
      Resolves start now token (.error (.ownerMissing credential.owner)) store
  | failed {store before : σ} {error : StoreError} (reached : Unchanged start before)
      (failure : CallFails token now before error) (same : Unchanged start store) :
      Resolves start now token (.error (.store error)) store
  | resolved {store : σ} {credential : Credential} {principal : Principal}
      (found : stored start token = some credential) (live : credential.isExpired now = false)
      (owned : known start credential.owner = some principal)
      (touched : stored store =
        Function.update (stored start) token (some (credential.used now)))
      (principals : known store = known start) :
      Resolves start now token (.ok principal) store

/-- How far the resolution of a token has come. Until it ends nothing is changed. -/
inductive Underway (start : σ) (now : Instant) (token : TokenValue) : GatePhase → σ → Prop
  | finding {store : σ} (same : Unchanged start store) :
      Underway start now token (.finding token) store
  | removing {store : σ} {credential : Credential}
      (found : stored start token = some credential) (due : credential.isExpired now = true)
      (same : Unchanged start store) :
      Underway start now token (.removing token credential.expiresAt) store
  | loading {store : σ} {credential : Credential} (found : stored start token = some credential)
      (live : credential.isExpired now = false) (same : Unchanged start store) :
      Underway start now token (.loading token credential.owner now) store
  | touching {store : σ} {credential : Credential} {principal : Principal}
      (found : stored start token = some credential) (live : credential.isExpired now = false)
      (owned : known start credential.owner = some principal) (same : Unchanged start store) :
      Underway start now token (.touching token principal now) store
  | ended {store : σ} {outcome : Except TokenError Principal}
      (ends : Resolves start now token outcome store) :
      Underway start now token (.settled outcome) store

theorem Unchanged.refl (store : σ) : Unchanged store store := ⟨rfl, rfl⟩

variable {start store : σ} {now : Instant} {token : TokenValue}

theorem Unchanged.find (same : Unchanged start store) (token : TokenValue) :
    Unchanged start (CredentialStore.find token store).2 where
  credentials := (CredentialLaws.find_performs token store).kept.trans same.credentials
  principals := (DirectoryLaws.known_find token store).trans same.principals

theorem Unchanged.load (same : Unchanged start store) (owner : PrincipalId) :
    Unchanged start (CredentialStore.load owner store).2 where
  credentials := (CredentialLaws.stored_load owner store).trans same.credentials
  principals := (DirectoryLaws.load_performs owner store).kept.trans same.principals

/-! ## One call -/

theorem underway_find (same : Unchanged start store) :
    Underway start now token
      (GatePhase.afterFind now token (CredentialStore.find token store).1)
      (CredentialStore.find token store).2 := by
  have kept := same.find token
  cases answer : (CredentialStore.find token store).1 with
  | error error => exact .ended (.failed same (.find answer) kept)
  | ok found =>
      have present : found = stored start token := by
        rw [((CredentialLaws.find_performs token store).answered found answer).1, same.credentials]
      cases found with
      | none => exact .ended (.notFound present.symm kept)
      | some credential =>
          cases due : credential.isExpired now with
          | true =>
              simp only [GatePhase.afterFind, due, if_true]
              exact .removing present.symm due kept
          | false =>
              simp only [GatePhase.afterFind, due, Bool.false_eq_true, if_false]
              exact .loading present.symm due kept

theorem underway_delete {credential : Credential} (found : stored start token = some credential)
    (due : credential.isExpired now = true) (same : Unchanged start store) :
    Underway start now token
      (GatePhase.afterRemoval token credential.expiresAt
        (CredentialStore.deleteIfExists token store).1)
      (CredentialStore.deleteIfExists token store).2 := by
  have performed := CredentialLaws.delete_performs token store
  have principals := (DirectoryLaws.known_delete token store).trans same.principals
  cases answer : (CredentialStore.deleteIfExists token store).1 with
  | error error =>
      have kept := (performed.failed error answer).trans same.credentials
      exact .ended (.failed same (.delete answer) ⟨kept, principals⟩)
  | ok existed =>
      have removed := (performed.answered existed answer).2
      rw [same.credentials] at removed
      exact .ended (.expired found due removed principals)

theorem underway_load {credential : Credential} (found : stored start token = some credential)
    (live : credential.isExpired now = false) (same : Unchanged start store) :
    Underway start now token
      (GatePhase.afterLoad token credential.owner now
        (CredentialStore.load credential.owner store).1)
      (CredentialStore.load credential.owner store).2 := by
  have kept := same.load credential.owner
  cases answer : (CredentialStore.load credential.owner store).1 with
  | error error => exact .ended (.failed same (.load credential.owner answer) kept)
  | ok loaded =>
      have owner : loaded = known start credential.owner := by
        rw [((DirectoryLaws.load_performs credential.owner store).answered loaded answer).1,
          same.principals]
      cases loaded with
      | none => exact .ended (.ownerMissing found live owner.symm kept)
      | some principal => exact .touching found live owner.symm kept

theorem underway_touch {credential : Credential} {principal : Principal}
    (found : stored start token = some credential) (live : credential.isExpired now = false)
    (owned : known start credential.owner = some principal) (same : Unchanged start store) :
    Underway start now token
      (GatePhase.afterTouch principal (CredentialStore.touch token now store).1)
      (CredentialStore.touch token now store).2 := by
  have performed := CredentialLaws.touch_performs token now store
  have principals := (DirectoryLaws.known_touch token now store).trans same.principals
  cases answer : (CredentialStore.touch token now store).1 with
  | error error =>
      have kept := (performed.failed error answer).trans same.credentials
      exact .ended (.failed same (.touch answer) ⟨kept, principals⟩)
  | ok done =>
      have touched := (performed.answered done answer).2
      rw [same.credentials, found] at touched
      exact .ended (.resolved found live owned touched principals)

/-- Each call of a resolution brings it one phase further. -/
theorem Underway.step {phase : GatePhase} (underway : Underway start now token phase store) :
    Underway start now token (phase.step now store).1 (phase.step now store).2 := by
  cases underway with
  | finding same => exact underway_find same
  | removing found due same => exact underway_delete found due same
  | loading found live same => exact underway_load found live same
  | touching found live owned same => exact underway_touch found live owned same
  | ended ends => exact .ended ends

/-- The calls that are left bring a resolution to its end. -/
theorem Underway.resolve {phase : GatePhase} (underway : Underway start now token phase store) :
    Resolves start now token (GatePhase.resolve now phase store).1
      (GatePhase.resolve now phase store).2 := by
  have settled := GatePhase.resolve_keeps (fun _ _ early => Underway.step early) underway
  cases settled with
  | ended ends => exact ends

/-- An error changes no principal, and no credential either unless an expired one
was removed. -/
theorem Resolves.refused {error : TokenError}
    (resolves : Resolves start now token (.error error) store) :
    known store = known start ∧
      ((∃ credential, error = .expired token credential.expiresAt ∧
          stored start token = some credential ∧ credential.isExpired now = true ∧
          stored store = Function.update (stored start) token none) ∨
        (∀ expired expiredAt, error ≠ .expired expired expiredAt) ∧
          stored store = stored start) := by
  cases resolves with
  | notFound absent same =>
      exact ⟨same.principals, Or.inr ⟨fun _ _ => nofun, same.credentials⟩⟩
  | expired found due removed principals =>
      exact ⟨principals, Or.inl ⟨_, rfl, found, due, removed⟩⟩
  | ownerMissing found live unowned same =>
      exact ⟨same.principals, Or.inr ⟨fun _ _ => nofun, same.credentials⟩⟩
  | failed reached failure same =>
      exact ⟨same.principals, Or.inr ⟨fun _ _ => nofun, same.credentials⟩⟩

end Resolutions

/-! ## The gate -/

/-- What the gate does to a request and to a store it asks through faults. The
fields are the paths of the gate: a request that is bound already, one that
presents nothing, an error, a bound principal, and the event of a presented token. -/
structure BindsWhole {σ : Type} [CredentialStore σ] [CredentialLaws σ] [DirectoryLaws σ]
    (settings : GateSettings) (now : Instant) (header : Option String) (context : RequestContext)
    (watched : WatchedStore σ) (ran : GateRun (WatchedStore σ)) : Prop where
  bound : context.authenticated = true → ran = ⟨.ok .authenticated, context, watched, []⟩
  unpresented : context.authenticated = false →
    (∀ token, ¬ settings.Presents header token) →
      ran = ⟨.ok .unauthenticated, context, watched, []⟩
  refused : ∀ error, ran.outcome = .error error →
    ran.context = context ∧ known ran.store = known watched ∧
      ∃ token, settings.Presents header token ∧
        ((∃ credential, error = .expired token credential.expiresAt ∧
            stored watched token = some credential ∧ credential.isExpired now = true ∧
            stored ran.store = Function.update (stored watched) token none) ∨
          (∀ expired expiredAt, error ≠ .expired expired expiredAt) ∧
            stored ran.store = stored watched)
  resolved : context.authenticated = false → ran.outcome = .ok .authenticated →
    ∃ token credential principal, settings.Presents header token ∧
      stored watched token = some credential ∧ credential.isExpired now = false ∧
      known watched credential.owner = some principal ∧
      ran.context =
        { context with
          principal := principal, authenticated := true, held := none, csrfExempt := true } ∧
      known ran.store = known watched ∧
      stored ran.store =
        Function.update (stored watched) token
          (some { credential with lastUsedAt := some now })
  recorded : context.authenticated = false → ∀ token, settings.Presents header token →
    ∃ outcome, Resolves watched now token outcome ran.store ∧
      ran.outcome = outcome.map (fun _ => .authenticated) ∧
      ran.events = [Gate.tokenEvent token outcome] ∧
      ∀ principal, outcome = .ok principal → ran.context.principal = principal

section Gates

variable {σ : Type} [CredentialStore σ] [CredentialLaws σ] [DirectoryLaws σ]

theorem resolves_watched (watched : WatchedStore σ) (now : Instant) (token : TokenValue) :
    Resolves watched now token (GatePhase.resolve now (.finding token) watched).1
      (GatePhase.resolve now (.finding token) watched).2 :=
  (Underway.finding (Unchanged.refl watched)).resolve

/-- A request that passes causes no call, no event and no change. -/
theorem bindsWhole_passed {settings : GateSettings} {now : Instant} {header : Option String}
    {context : RequestContext} {verdict : GateVerdict} (watched : WatchedStore σ)
    (bound : context.authenticated = true → verdict = .authenticated)
    (unbound : context.authenticated = false →
      verdict = .unauthenticated ∧ ∀ token, ¬ settings.Presents header token) :
    BindsWhole settings now header context watched ⟨.ok verdict, context, watched, []⟩ where
  bound isBound := by rw [bound isBound]
  unpresented isUnbound _ := by rw [(unbound isUnbound).1]
  refused error refused := nomatch refused
  resolved isUnbound passed := by
    rw [(unbound isUnbound).1] at passed
    cases passed
  recorded isUnbound token presents := absurd presents ((unbound isUnbound).2 token)

theorem bindsWhole_present {settings : GateSettings} {now : Instant} {header : Option String}
    {context : RequestContext} {token : TokenValue} (watched : WatchedStore σ)
    (unbound : context.authenticated = false) (presents : settings.Presents header token) :
    BindsWhole settings now header context watched (Gate.present now token context watched) := by
  have resolves := resolves_watched watched now token
  have only : ∀ other, settings.Presents header other → other = token := by
    intro other otherPresents
    have read := GateSettings.bind_token?_eq_some_iff.2 presents
    rw [GateSettings.bind_token?_eq_some_iff.2 otherPresents] at read
    exact Option.some.inj read
  unfold Gate.present
  generalize GatePhase.resolve now (.finding token) watched = made at resolves ⊢
  obtain ⟨outcome, store⟩ := made
  refine
    { bound := fun isBound => absurd (unbound.symm.trans isBound) Bool.false_ne_true
      unpresented := fun _ nothing => absurd presents (nothing token)
      refused := ?_
      resolved := ?_
      recorded := ?_ }
  · intro error refused
    cases outcome with
    | ok principal => cases refused
    | error cause =>
        cases refused
        obtain ⟨principals, leaves⟩ := resolves.refused
        exact ⟨rfl, principals, token, presents, leaves⟩
  · intro _ passed
    cases resolves with
    | resolved found live owned touched principals =>
        exact ⟨token, _, _, presents, found, live, owned, rfl, principals, touched⟩
    | _ => cases passed
  · intro _ other otherPresents
    rw [only other otherPresents]
    refine ⟨outcome, resolves, rfl, rfl, ?_⟩
    rintro principal rfl
    rfl

/-- The gate binds a request whole or leaves it as it was, whatever it is made of:
its store and its directory, which may fail at any call, its settings, its clock
and the header it is shown. -/
theorem Gate.binds_whole_or_not (settings : GateSettings) (now : Instant)
    (header : Option String) (context : RequestContext) (faults : StoreFaults) (store : σ) :
    BindsWhole settings now header context (WatchedStore.watch faults store)
      (Gate.authenticate settings now header context (WatchedStore.watch faults store)) := by
  cases isBound : context.authenticated with
  | true =>
      simp only [Gate.authenticate, isBound, if_true]
      refine bindsWhole_passed _ (fun _ => rfl) (fun isUnbound => ?_)
      exact absurd (isBound.symm.trans isUnbound) (by decide)
  | false =>
      simp only [Gate.authenticate, isBound, Bool.false_eq_true, if_false]
      split
      next unread =>
        refine bindsWhole_passed _ (fun bound => ?_) (fun _ => ⟨rfl, fun token presents => ?_⟩)
        · exact absurd (isBound.symm.trans bound) (by decide)
        · rw [GateSettings.bind_token?_eq_some_iff.2 presents] at unread
          cases unread
      next token read =>
        exact bindsWhole_present _ isBound (GateSettings.bind_token?_eq_some_iff.1 read)

end Gates

namespace Desk

/-- A store with one clerk and a key of theirs, which ends at a time. -/
def keyStore : MemoryStore :=
  (MemoryStore.empty.insertCredential ⟨⟨"key"⟩, ⟨"ada"⟩, ⟨0, 0⟩, ⟨100, 0⟩, none⟩).insertPrincipal
    ⟨⟨"ada"⟩, OrderedSet.empty, false⟩

/-- The way to the store on which every touch fails. -/
def touchFails : StoreFaults
  | _, .touch _ _ => some ⟨.io, "gone"⟩
  | _, _ => none

/-- A request that shows the key. -/
def keyRun (now : Instant) (faults : StoreFaults) : GateRun (WatchedStore MemoryStore) :=
  Gate.authenticate .standard now (some "Token key") (RequestContext.anonymous .get none)
    (WatchedStore.watch faults keyStore)

/-- In time the key binds its owner; where the touch fails, the request stays
anonymous and the key as it was, although its owner had been loaded. -/
theorem desk_key_binds_or_not :
    (keyRun ⟨50, 0⟩ (fun _ _ => none)).context.principal.id = ⟨"ada"⟩ ∧
    (keyRun ⟨50, 0⟩ touchFails).outcome = .error (.store ⟨.io, "gone"⟩) ∧
    (keyRun ⟨50, 0⟩ touchFails).context = RequestContext.anonymous .get none ∧
    stored (keyRun ⟨50, 0⟩ touchFails).store.store = keyStore.credentials.find? := by
  have binds := Gate.binds_whole_or_not .standard ⟨50, 0⟩ (some "Token key")
    (RequestContext.anonymous .get none) touchFails keyStore
  have failed : (keyRun ⟨50, 0⟩ touchFails).outcome = .error (.store ⟨.io, "gone"⟩) := by
    decide +kernel
  refine ⟨by decide +kernel, failed, ?_⟩
  obtain ⟨same, _, _, _, left⟩ := binds.refused _ failed
  rcases left with ⟨_, expired, _⟩ | ⟨_, kept⟩
  · cases expired
  · exact ⟨same, kept⟩

end Desk

end RowAccess
