import SignOut.Proofs.Execution

/-!
# Runs under watch

What a combination of parts does shows in the exchange, but which of its parts it comes to, and in
which order, need not.  A run under watch also keeps the parts that it came to, each with the
exchange in which it was reached.  Combinations are stated for any monad, so the combination that
runs is also the one that is watched.  The laws below say that watching changes nothing about a run
and that the visits of a sequence are those of its first half and then those of its second.
-/

namespace SignOut

/-- A part that a run came to, and the exchange in which it was reached. -/
abbrev Station (ι : Type) := ι × Exchange

/-- A run that also keeps its visits. -/
abbrev Watched (ι : Type) := ExceptT Fault (StateM (Exchange × List (Station ι)))

namespace Watched

variable {ι α β : Type}

/-- The result of a watched run, the exchange that it reached, and its visits behind earlier
ones. -/
def run (watched : Watched ι α) (e : Exchange) (earlier : List (Station ι)) :
    Except Fault α × Exchange × List (Station ι) :=
  Id.run (StateT.run (ExceptT.run watched) (e, earlier))

/-- The visits of a watched run, in their order. -/
def visits (watched : Watched ι α) (e : Exchange) : List (Station ι) :=
  (run watched e []).2.2

/-- Run an action and note the part whose action it is. -/
def note (part : ι) (action : Run α) : Watched ι α :=
  ExceptT.mk fun (e, earlier) =>
    ((Run.exec action e).1, (Run.exec action e).2, earlier ++ [(part, e)])

/-- Run the actions of parts and note each part that is reached. -/
def noting (act : ι → Run α) (part : ι) : Watched ι α :=
  note part (act part)

/-- A watched run does what a plain one does, and adds its visits to the earlier ones. -/
def Follows (watched : Watched ι α) (plain : Run α) : Prop :=
  ∀ e earlier, run watched e earlier =
    ((Run.exec plain e).1, (Run.exec plain e).2, earlier ++ visits watched e)

@[simp] theorem visits_pure (a : α) (e : Exchange) :
    visits (pure a : Watched ι α) e = [] := rfl

@[simp] theorem visits_note (part : ι) (action : Run α) (e : Exchange) :
    visits (note part action) e = [(part, e)] := rfl

theorem run_note (part : ι) (action : Run α) (e : Exchange) (earlier : List (Station ι)) :
    run (note part action) e earlier =
      ((Run.exec action e).1, (Run.exec action e).2, earlier ++ [(part, e)]) := rfl

theorem follows_pure (a : α) : Follows (pure a : Watched ι α) (pure a) := by
  intro e earlier
  rw [visits_pure, List.append_nil]
  rfl

theorem follows_note (part : ι) (action : Run α) : Follows (note part action) action :=
  fun _ _ => rfl

theorem run_bind (watched : Watched ι α) (next : α → Watched ι β) (e : Exchange)
    (earlier : List (Station ι)) :
    run (watched >>= next) e earlier =
      match run watched e earlier with
      | (.ok a, e₁, seen) => run (next a) e₁ seen
      | (.error fault, e₁, seen) => (.error fault, e₁, seen) := by
  show (StateT.run (ExceptT.run watched) (e, earlier) >>= fun p =>
    StateT.run (ExceptT.bindCont next p.1) p.2) = _
  unfold run
  rcases StateT.run (ExceptT.run watched) (e, earlier) with ⟨result, e₁, seen⟩
  cases result with
  | ok a => rfl
  | error fault => rfl

/-- A watched run from the start tells what the plain run does and which visits there are. -/
theorem Follows.eq_of_run {watched : Watched ι α} {plain : Run α} {e : Exchange}
    {result : Except Fault α × Exchange} {seen : List (Station ι)} (h : Follows watched plain)
    (hrun : run watched e [] = (result.1, result.2, seen)) :
    Run.exec plain e = result ∧ visits watched e = seen := by
  have hall := (h e []).symm.trans hrun
  rw [List.nil_append, Prod.mk.injEq, Prod.mk.injEq] at hall
  exact ⟨Prod.ext hall.1 hall.2.1, hall.2.2⟩

section Sequence

variable {watched : Watched ι α} {plain : Run α} {next : α → Watched ι β} {follow : Run β}
  {e e₁ : Exchange} {a : α} {fault : Fault}

/-- A sequence whose first half completes behind earlier visits. -/
theorem run_bind_of_ok (h : Follows watched plain) (hnext : Follows (next a) follow)
    (hok : Run.exec plain e = (.ok a, e₁)) (earlier : List (Station ι)) :
    run (watched >>= next) e earlier =
      ((Run.exec follow e₁).1, (Run.exec follow e₁).2,
        earlier ++ (visits watched e ++ visits (next a) e₁)) := by
  rw [run_bind, h, hok]
  dsimp only
  rw [hnext, List.append_assoc]

/-- A sequence whose first half stops behind earlier visits. -/
theorem run_bind_of_error (h : Follows watched plain)
    (hstop : Run.exec plain e = (.error fault, e₁)) (earlier : List (Station ι)) :
    run (watched >>= next) e earlier = (.error fault, e₁, earlier ++ visits watched e) := by
  rw [run_bind, h, hstop]

theorem visits_bind_of_ok (h : Follows watched plain) (hnext : Follows (next a) follow)
    (hok : Run.exec plain e = (.ok a, e₁)) :
    visits (watched >>= next) e = visits watched e ++ visits (next a) e₁ := by
  unfold visits
  rw [run_bind_of_ok h hnext hok]
  rfl

theorem visits_bind_of_error (h : Follows watched plain)
    (hstop : Run.exec plain e = (.error fault, e₁)) :
    visits (watched >>= next) e = visits watched e := by
  unfold visits
  rw [run_bind_of_error h hstop]
  rfl

/-- Watching both halves of a sequence watches the sequence. -/
theorem Follows.bind {plainNext : α → Run β} (h : Follows watched plain)
    (hnext : ∀ a, Follows (next a) (plainNext a)) :
    Follows (watched >>= next) (plain >>= plainNext) := by
  intro e earlier
  rcases hexec : Run.exec plain e with ⟨result, e₁⟩
  cases result with
  | ok a =>
      rw [run_bind_of_ok h (hnext a) hexec, visits_bind_of_ok h (hnext a) hexec,
        Run.exec_bind_of_ok hexec]
  | error fault =>
      rw [run_bind_of_error h hexec, visits_bind_of_error h hexec, Run.exec_bind_of_error hexec]

end Sequence

end Watched

end SignOut
