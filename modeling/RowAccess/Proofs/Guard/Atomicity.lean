import RowAccess.Proofs.Guard.Discipline

/-!
Contract: what is committed is what committed runs have staged.

Runs follow one another on one transaction manager, and writes may be staged at
any time: by handlers, by runs inside them, and between runs. Opening a
transaction drops what was staged before, so whatever a failed call has left
behind, a run that commits adds its own writes to what is committed, all of them
and no others, and any other run adds nothing.

Owns:
- outer runs, one at a time on one manager, and what happens between them.
- the accounts of a manager: what it committed, and which calls it counted.
- the committed map after any sequence of outer runs and writes.
-/

namespace RowAccess

/-! ## Accounts -/

/-- Those of some calls that reached the manager, given the calls made before. -/
def TransactionFaults.reached (faults : TransactionFaults) :
    List TransactionCall → List TransactionCall → List TransactionCall
  | _, [] => []
  | earlier, kind :: rest =>
      (if faults earlier kind = none then [kind] else []) ++
        TransactionFaults.reached faults (earlier ++ [kind]) rest

theorem TransactionFaults.reached_cons (faults : TransactionFaults)
    (earlier : List TransactionCall) (kind : TransactionCall) (rest : List TransactionCall) :
    faults.reached earlier (kind :: rest) =
      (if faults earlier kind = none then [kind] else []) ++
        faults.reached (earlier ++ [kind]) rest := rfl

theorem TransactionFaults.reached_append (faults : TransactionFaults)
    (earlier first second : List TransactionCall) :
    faults.reached earlier (first ++ second) =
      faults.reached earlier first ++ faults.reached (earlier ++ first) second := by
  induction first generalizing earlier with
  | nil =>
      rw [List.append_nil]
      rfl
  | cons kind rest inductionHypothesis =>
      rw [List.cons_append, reached_cons, reached_cons, inductionHypothesis, List.append_assoc,
        List.append_assoc, List.singleton_append]

namespace Transactions

/-- Whether a manager has gone from one state to another by committing the given
writes in turn, counting the commits and rollbacks that reached it. -/
structure Accounts (faults : TransactionFaults) (before after : Transactions)
    (writes : List (String × Json)) (made : List TransactionCall) : Prop where
  committed : after.committed = before.committed.insertAll writes
  calls : after.calls = before.calls ++ made
  commits : after.commits = before.commits + (faults.reached before.calls made).count .commit
  rollbacks : after.rollbacks =
    before.rollbacks + (faults.reached before.calls made).count .rollback

namespace Accounts

variable {faults : TransactionFaults} {before middle after : Transactions}
  {early late : List (String × Json)} {first second : List TransactionCall}

theorem refl (transactions : Transactions) : Accounts faults transactions transactions [] [] :=
  ⟨rfl, (List.append_nil _).symm, rfl, rfl⟩

theorem trans (here : Accounts faults before middle early first)
    (there : Accounts faults middle after late second) :
    Accounts faults before after (early ++ late) (first ++ second) where
  committed := by
    rw [there.committed, here.committed, OrderedMap.insertAll_append]
  calls := by
    rw [there.calls, here.calls, List.append_assoc]
  commits := by
    rw [there.commits, here.commits, here.calls, TransactionFaults.reached_append,
      List.count_append, Nat.add_assoc]
  rollbacks := by
    rw [there.rollbacks, here.rollbacks, here.calls, TransactionFaults.reached_append,
      List.count_append, Nat.add_assoc]

end Accounts

theorem accounts_writeAll (faults : TransactionFaults) (transactions : Transactions)
    (writes : List (String × Json)) :
    Accounts faults transactions (transactions.writeAll writes) [] [] :=
  ⟨rfl, (List.append_nil _).symm, rfl, rfl⟩

/-- What a call commits: everything staged, if it is a commit that reaches the manager. -/
def settled (faults : TransactionFaults) (kind : TransactionCall) (transactions : Transactions) :
    List (String × Json) :=
  if kind = .commit ∧ faults transactions.calls kind = none then transactions.pending.entries
  else []

theorem accounts_call (faults : TransactionFaults) (kind : TransactionCall)
    (transactions : Transactions) :
    Accounts faults transactions (transactions.call faults kind).2
      (settled faults kind transactions) [kind] := by
  refine ⟨?_, calls_call faults kind transactions, ?_, ?_⟩
  · unfold call settled
    cases faults transactions.calls kind with
    | some error => simp [OrderedMap.insertAll]
    | none => cases kind <;> simp [OrderedMap.insertAll, perform]
  · unfold call
    cases fault : faults transactions.calls kind with
    | some error => simp [TransactionFaults.reached, fault]
    | none => cases kind <;> simp [TransactionFaults.reached, fault, perform]
  · unfold call
    cases fault : faults transactions.calls kind with
    | some error => simp [TransactionFaults.reached, fault]
    | none => cases kind <;> simp [TransactionFaults.reached, fault, perform]

end Transactions

/-! ## Outer runs -/

/-- An outermost guarded run of a course, in a session of its own. -/
structure OuterRun where
  evaluator : Evaluator
  session : Session
  outermost : session.context.depth = 0
  handler : Course

namespace OuterRun

variable {faults : TransactionFaults}

def state (outer : OuterRun) (transactions : Transactions) : GuardState RequestContext :=
  ⟨outer.session, transactions, []⟩

def run (outer : OuterRun) (faults : TransactionFaults) (transactions : Transactions) :
    Except AccessError Nat × GuardState RequestContext :=
  Guard.run faults (outer.handler.run outer.evaluator faults) (outer.state transactions)

/-- The writes staged in the run, those of the runs inside it included. -/
def staged (outer : OuterRun) (faults : TransactionFaults) (transactions : Transactions) :
    List (String × Json) :=
  (Guard.start? faults (outer.state transactions)).elim []
    (outer.handler.writes outer.evaluator faults)

/-- Whether the run calls for a commit, and the commit succeeds. -/
def Commits (outer : OuterRun) (faults : TransactionFaults) (transactions : Transactions) : Prop :=
  (outer.run faults transactions).2.transactions.calls =
      transactions.calls ++ [.start, .commit] ∧
    faults (transactions.calls ++ [.start]) .commit = none

instance (outer : OuterRun) (faults : TransactionFaults) (transactions : Transactions) :
    Decidable (outer.Commits faults transactions) :=
  inferInstanceAs (Decidable (_ ∧ _))

/-- The writes that the run commits. -/
def committed (outer : OuterRun) (faults : TransactionFaults) (transactions : Transactions) :
    List (String × Json) :=
  if outer.Commits faults transactions then outer.staged faults transactions else []

/-- The manager before the last call of a run that opened its transaction. -/
def beforeEnd (outer : OuterRun) (faults : TransactionFaults) (transactions : Transactions) :
    Transactions :=
  (transactions.call faults .start).2.writeAll (outer.staged faults transactions)

theorem calls_beforeEnd (outer : OuterRun) (faults : TransactionFaults)
    (transactions : Transactions) :
    (outer.beforeEnd faults transactions).calls = transactions.calls ++ [.start] :=
  Transactions.calls_call faults .start transactions

/-- Opening the transaction drops what was staged before, so only the run's own
writes are staged at its end. -/
theorem pending_beforeEnd (outer : OuterRun) {transactions : Transactions}
    (begun : faults transactions.calls .start = none) :
    (outer.beforeEnd faults transactions).pending =
      OrderedMap.ofList (outer.staged faults transactions) := by
  have opened : (transactions.call faults .start).2.pending = OrderedMap.empty := by
    unfold Transactions.call
    rw [begun]
    rfl
  unfold beforeEnd Transactions.writeAll
  rw [opened]
  rfl

/-- A run that opens its transaction stages its writes there and makes one more call. -/
theorem exists_transactions_run (outer : OuterRun) {transactions : Transactions}
    (begun : faults transactions.calls .start = none) :
    ∃ due, (outer.run faults transactions).2.transactions =
      ((outer.beforeEnd faults transactions).call faults due).2 := by
  obtain ⟨logged, inside⟩ := outer.handler.inside_run outer.evaluator faults
    (Guard.enter faults (outer.state transactions)) (Nat.succ_pos 0)
  have ended := Guard.transactions_run_of_begun outer.outermost begun inside
  have starts : Guard.start? faults (outer.state transactions) =
      some (Guard.enter faults (outer.state transactions)) :=
    Guard.start?_of_begun outer.outermost begun
  rw [inside.transactions] at ended
  have staged : outer.staged faults transactions =
      outer.handler.writes outer.evaluator faults
        (Guard.enter faults (outer.state transactions)) := by
    unfold OuterRun.staged
    rw [starts]
    rfl
  unfold beforeEnd
  rw [staged]
  exact ⟨_, ended⟩

theorem commits_iff {outer : OuterRun} {transactions : Transactions} {due : TransactionCall}
    (ended : (outer.run faults transactions).2.transactions =
      ((outer.beforeEnd faults transactions).call faults due).2) :
    outer.Commits faults transactions ↔
      due = .commit ∧ faults (transactions.calls ++ [.start]) due = none := by
  unfold Commits
  rw [ended, Transactions.calls_call, calls_beforeEnd, List.append_assoc]
  constructor
  · rintro ⟨calls, succeeds⟩
    have isCommit : [TransactionCall.start] ++ [due] = [.start, .commit] :=
      List.append_cancel_left calls
    cases isCommit
    exact ⟨rfl, succeeds⟩
  · rintro ⟨rfl, succeeds⟩
    exact ⟨rfl, succeeds⟩

/-- The last call of a run settles the writes that the run commits. -/
theorem settled_beforeEnd {outer : OuterRun} {transactions : Transactions}
    {due : TransactionCall} (begun : faults transactions.calls .start = none)
    (ended : (outer.run faults transactions).2.transactions =
      ((outer.beforeEnd faults transactions).call faults due).2) :
    Transactions.settled faults due (outer.beforeEnd faults transactions) =
      (OrderedMap.ofList (outer.committed faults transactions)).entries := by
  unfold Transactions.settled committed
  rw [calls_beforeEnd, pending_beforeEnd outer begun]
  by_cases commits : outer.Commits faults transactions
  · rw [if_pos commits, if_pos ((commits_iff ended).1 commits)]
  · rw [if_neg commits, if_neg (fun settles => commits ((commits_iff ended).2 settles))]
    rfl

/-- An outer run accounts for its writes if it commits, and for none otherwise. -/
theorem accounts_run (outer : OuterRun) (faults : TransactionFaults) (transactions : Transactions) :
    ∃ made, Transactions.Accounts faults transactions
      (outer.run faults transactions).2.transactions (outer.committed faults transactions)
      made := by
  have opens := Transactions.accounts_call faults .start transactions
  cases begun : faults transactions.calls .start with
  | some failure =>
      have unopened : (outer.run faults transactions).2.transactions =
          (transactions.call faults .start).2 := by
        unfold run
        rw [Guard.run_of_unopened _ outer.outermost begun]
        rfl
      have nothing : outer.committed faults transactions = [] := by
        apply if_neg
        rintro ⟨calls, _⟩
        rw [unopened, Transactions.calls_call] at calls
        cases List.append_cancel_left calls
      rw [unopened, nothing]
      exact ⟨_, opens⟩
  | none =>
      obtain ⟨due, ended⟩ := outer.exists_transactions_run begun
      have fills : Transactions.Accounts faults (transactions.call faults .start).2
          (outer.beforeEnd faults transactions) [] [] :=
        Transactions.accounts_writeAll faults _ _
      have ends := Transactions.accounts_call faults due (outer.beforeEnd faults transactions)
      rw [settled_beforeEnd begun ended, ← ended] at ends
      have accounts := (opens.trans fills).trans ends
      refine ⟨_, { accounts with committed := ?_ }⟩
      rw [accounts.committed]
      exact OrderedMap.insertAll_entries_ofList _ _

end OuterRun

/-! ## Sequences -/

/-- What happens on a transaction manager: a write outside any run, or an outer run. -/
inductive Occasion where
  | write (key : String) (value : Json)
  | run (outer : OuterRun)

namespace Occasion

def perform (faults : TransactionFaults) (transactions : Transactions) : Occasion → Transactions
  | .write key value => transactions.write key value
  | .run outer => (outer.run faults transactions).2.transactions

def committed (faults : TransactionFaults) (transactions : Transactions) :
    Occasion → List (String × Json)
  | .write _ _ => []
  | .run outer => outer.committed faults transactions

/-- The manager after some occasions, one at a time. -/
def performAll (faults : TransactionFaults) : Transactions → List Occasion → Transactions
  | transactions, [] => transactions
  | transactions, occasion :: rest => performAll faults (occasion.perform faults transactions) rest

/-- The writes of those runs that commit, in the order of the runs. -/
def committedInAll (faults : TransactionFaults) :
    Transactions → List Occasion → List (String × Json)
  | _, [] => []
  | transactions, occasion :: rest =>
      occasion.committed faults transactions ++
        committedInAll faults (occasion.perform faults transactions) rest

variable {faults : TransactionFaults} {transactions : Transactions}

theorem exists_accounts_perform (faults : TransactionFaults) (transactions : Transactions)
    (occasion : Occasion) :
    ∃ made, Transactions.Accounts faults transactions (occasion.perform faults transactions)
      (occasion.committed faults transactions) made := by
  cases occasion with
  | write key value =>
      exact ⟨[], Transactions.accounts_writeAll faults transactions [(key, value)]⟩
  | run outer => exact outer.accounts_run faults transactions

theorem exists_accounts_performAll (faults : TransactionFaults) (transactions : Transactions)
    (occasions : List Occasion) :
    ∃ made, Transactions.Accounts faults transactions
      (performAll faults transactions occasions)
      (committedInAll faults transactions occasions) made := by
  induction occasions generalizing transactions with
  | nil => exact ⟨[], Transactions.Accounts.refl transactions⟩
  | cons occasion rest inductionHypothesis =>
      obtain ⟨first, here⟩ := exists_accounts_perform faults transactions occasion
      obtain ⟨second, there⟩ := inductionHypothesis (occasion.perform faults transactions)
      exact ⟨first ++ second, here.trans there⟩

/-- A write is committed only by the run that staged it. -/
theorem exists_run_of_mem {entry : String × Json} {occasions : List Occasion}
    (member : entry ∈ committedInAll faults transactions occasions) :
    ∃ earlier outer later, occasions = earlier ++ .run outer :: later ∧
      outer.Commits faults (performAll faults transactions earlier) ∧
      entry ∈ outer.staged faults (performAll faults transactions earlier) := by
  induction occasions generalizing transactions with
  | nil => cases member
  | cons occasion rest inductionHypothesis =>
      rcases List.mem_append.1 member with here | there
      · cases occasion with
        | write key value => cases here
        | run outer =>
            have ownWrites : entry ∈ outer.committed faults transactions := here
            unfold OuterRun.committed at ownWrites
            split at ownWrites
            next commits => exact ⟨[], outer, rest, rfl, commits, ownWrites⟩
            next => cases ownWrites
      · obtain ⟨earlier, outer, later, rfl, commits, staged⟩ := inductionHypothesis there
        exact ⟨occasion :: earlier, outer, later, rfl, commits, staged⟩

/-- Whatever happens on a manager, and whichever of its calls fail, it has
committed what those runs have staged that committed, in their order; and it has
counted the calls that succeeded. -/
theorem committed_is_what_committed_runs_staged (faults : TransactionFaults)
    (occasions : List Occasion) :
    let ended := performAll faults Transactions.initial occasions
    ended.committed = OrderedMap.ofList (committedInAll faults Transactions.initial occasions) ∧
    (∀ key value, ended.committed.find? key = some value →
      ∃ earlier outer later, occasions = earlier ++ .run outer :: later ∧
        outer.Commits faults (performAll faults Transactions.initial earlier) ∧
        (key, value) ∈ outer.staged faults (performAll faults Transactions.initial earlier)) ∧
    ended.commits = (faults.reached [] ended.calls).count .commit ∧
    ended.rollbacks = (faults.reached [] ended.calls).count .rollback := by
  intro ended
  obtain ⟨made, accounts⟩ := exists_accounts_performAll faults Transactions.initial occasions
  have calls : ended.calls = made := accounts.calls
  have overlay : ended.committed =
      OrderedMap.ofList (committedInAll faults Transactions.initial occasions) :=
    accounts.committed
  refine ⟨overlay, ?_, ?_, ?_⟩
  · intro key value found
    rw [overlay] at found
    unfold OrderedMap.ofList at found
    rw [OrderedMap.find?_insertAll, OrderedMap.find?_empty, Option.or_none] at found
    obtain ⟨entry, isLast, rfl⟩ := Option.map_eq_some_iff.1 found
    have atKey : entry.1 = key := by simpa using List.find?_some isLast
    have member := List.mem_reverse.1 (List.mem_of_find?_eq_some isLast)
    rw [← atKey]
    exact exists_run_of_mem member
  · rw [calls]
    exact accounts.commits.trans (Nat.zero_add _)
  · rw [calls]
    exact accounts.rollbacks.trans (Nat.zero_add _)

end Occasion

namespace Desk

/-- Leaves a note and answers, needing no scope. -/
def noting (note : String) : OuterRun where
  evaluator := office
  session := clerk .put
  outermost := rfl
  handler := .stage "note" (.string note)
    (.ask (.single .markUnscoped) (fun _ => .answer (.ok 200)))

/-- The first commit fails. -/
def stumbling : TransactionFaults
  | [.start], .commit => some ⟨.io, "disk full"⟩
  | _, _ => none

/-- The second note is committed, the first one and a note left in between are not. -/
theorem desk_commits_the_second_note :
    let ended := Occasion.performAll stumbling Transactions.initial
      [.run (noting "first"), .write "stray" .null, .run (noting "second")]
    ended.committed.find? "note" = some (.string "second") ∧
    ended.committed.find? "stray" = none ∧ ended.commits = 1 ∧ ended.rollbacks = 0 := by
  intro ended
  obtain ⟨overlay, _, commits, rollbacks⟩ :=
    Occasion.committed_is_what_committed_runs_staged stumbling
      [.run (noting "first"), .write "stray" .null, .run (noting "second")]
  refine ⟨?_, ?_, commits, rollbacks⟩
  · rw [show ended.committed = _ from overlay]
    rfl
  · rw [show ended.committed = _ from overlay]
    rfl

end Desk

end RowAccess
