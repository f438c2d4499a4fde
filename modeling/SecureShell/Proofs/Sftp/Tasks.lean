import SecureShell.Proofs.Sftp.Slicing
import SecureShell.Sftp.Client

namespace SecureShell.Sftp

-- What a client's task asks for, reply by reply, and what it comes to.

namespace Exchange

variable {result other : Type}

def after (earlier : List Request) (exchange : Exchange result) : Exchange result :=
  { exchange with asked := earlier ++ exchange.asked }

def map (change : result → other) (exchange : Exchange result) : Exchange other :=
  ⟨exchange.asked, exchange.result?.map (Except.map change)⟩

end Exchange

namespace Progress

variable {work result : Type} {resume : work → Reply → Progress work result}

theorem exchange_finish (result : Except SftpFault result) (replies : List Reply) :
    exchange resume (.finish result) replies = ⟨[], some result⟩ := by
  cases replies <;> rfl

theorem exchange_waits (progress : Progress work result) (replies : List Reply)
    (waits : (exchange resume progress replies).result? = none) :
    (exchange resume progress replies).asked.length = replies.length + 1 := by
  induction replies generalizing progress with
  | nil =>
    cases progress with
    | finish result => cases waits
    | ask request work => rfl
  | cons reply replies ih =>
    cases progress with
    | finish result => cases waits
    | ask request work => exact congrArg (· + 1) (ih (resume work reply) waits)

end Progress

def Service.askAll (reachable : Bool) (service : Service) (ticket : Ticket) :
    List Request → Service × List ChannelCommand
  | [] => (service, [])
  | request :: requests =>
    let (between, effects) := service.ask reachable request ticket
    let (after, commands) := between.askAll reachable (ticket + 1) requests
    (after, Service.commands effects ++ commands)

namespace Procedure

def exchange : Move → List Reply → Exchange Result
  | .finish result, _ => ⟨[], some result⟩
  | .stay _, [] => ⟨[], none⟩
  | .stay rest, reply :: replies => exchange (rest.resume reply) replies
  | .ask request _, [] => ⟨[request], none⟩
  | .ask request rest, reply :: replies => (exchange (rest.resume reply) replies).after [request]

theorem exchange_finish (result : Except SftpFault Result) (replies : List Reply) :
    exchange (.finish result) replies = ⟨[], some result⟩ := by
  cases replies <;> rfl

def Move.rest? : Move → Option Procedure
  | .ask _ rest | .stay rest => some rest
  | .finish _ => none

def reached (move : Move) : List Reply → Option Procedure
  | [] => move.rest?
  | reply :: replies => move.rest?.bind fun procedure => reached (procedure.resume reply) replies

-- What is asked for when a task is given up: that the file it has opened for itself be closed.
def parting (move : Move) (replies : List Reply) : List Request :=
  ((reached move replies).bind lost?).toList.map fun file => .close file.handle

theorem reached_finish (result : Except SftpFault Result) (replies : List Reply) :
    reached (.finish result) replies = none := by
  cases replies <;> rfl

theorem reached_on {move : Move} {replies more : List Reply} {procedure : Procedure}
    (stands : reached move replies = some procedure) (reply : Reply) :
    reached move (replies ++ reply :: more) = reached (procedure.resume reply) more := by
  induction replies generalizing move with
  | nil =>
    have rest : move.rest? = some procedure := stands
    simp only [List.nil_append, reached, rest, Option.bind_some]
  | cons earlier replies ih =>
    rw [reached] at stands
    obtain ⟨between, rest, goesOn⟩ := Option.bind_eq_some_iff.mp stands
    rw [List.cons_append, reached, rest, Option.bind_some, ih goesOn]

theorem pursue_asks (reachable : Bool) (service : Service) (next : Ticket) (move : Move) :
    ∃ refusals : List SftpFault,
      let replies : List Reply := refusals.map .error
      let pursuit := pursue reachable service next move
      (pursuit.service, pursuit.commands) =
          service.askAll reachable next (exchange move replies).asked ∧
        match pursuit.course with
        | .waiting procedure _ | .staying procedure => reached move replies = some procedure
        | .finished result => (exchange move replies).result? = some result := by
  fun_induction pursue reachable service next move with
  | case1 => exact ⟨[], rfl, rfl⟩
  | case2 => exact ⟨[], rfl, rfl⟩
  | case3 service next request rest asked effects outcome kept =>
    refine ⟨[], ?_, rfl⟩
    simp [exchange, Service.askAll, outcome]
  | case4 service next request rest asked effects outcome fault refused smaller later ih =>
    obtain ⟨refusals, asks, course⟩ := ih
    refine ⟨fault :: refusals, ?_, course⟩
    simp only [List.map_cons, exchange, Exchange.after, List.singleton_append, Service.askAll, outcome,
      ← asks]
    rfl

theorem pursue_tickets (reachable : Bool) (service : Service) (next : Ticket) (move : Move) :
    let pursuit := pursue reachable service next move
    next ≤ pursuit.next ∧ ∀ procedure promise, pursuit.course = .waiting procedure promise →
      next ≤ promise ∧ promise < pursuit.next := by
  fun_induction pursue reachable service next move with
  | case1 | case2 => exact ⟨Nat.le_refl _, nofun⟩
  | case3 service next request rest asked effects outcome kept =>
    refine ⟨Nat.le_succ next, fun procedure promise waits => ?_⟩
    cases waits
    exact ⟨Nat.le_refl next, Nat.lt_succ_self next⟩
  | case4 service next request rest asked effects outcome fault refused smaller later ih =>
    refine ⟨Nat.le_of_succ_le ih.1, fun procedure promise waits => ?_⟩
    exact (ih.2 procedure promise waits).imp_left Nat.le_of_succ_le

theorem exchange_ofProgress {work result : Type} {resume : work → Reply → Progress work result}
    {onWork : work → Procedure} {onResult : result → Result}
    (resumes : ∀ work reply, (onWork work).resume reply =
      .ofProgress onWork onResult (resume work reply))
    (progress : Progress work result) (replies : List Reply) :
    exchange (.ofProgress onWork onResult progress) replies =
      (Progress.exchange resume progress replies).map onResult := by
  induction replies generalizing progress with
  | nil => cases progress <;> rfl
  | cons reply replies ih =>
    cases progress with
    | finish result => rfl
    | ask request work =>
      have rest := ih (resume work reply)
      rw [← resumes] at rest
      rw [Move.ofProgress, exchange, rest]
      rfl

theorem reached_ofProgress {work result : Type} {resume : work → Reply → Progress work result}
    {onWork : work → Procedure} {onResult : result → Result}
    (resumes : ∀ work reply, (onWork work).resume reply =
      .ofProgress onWork onResult (resume work reply))
    {progress : Progress work result} {replies : List Reply} {procedure : Procedure}
    (stands : reached (.ofProgress onWork onResult progress) replies = some procedure) :
    ∃ work, procedure = onWork work := by
  induction replies generalizing progress with
  | nil =>
    cases progress with
    | finish result => cases stands
    | ask request work =>
      cases stands
      exact ⟨work, rfl⟩
  | cons reply replies ih =>
    cases progress with
    | finish result => cases stands
    | ask request work =>
      have onward : reached ((onWork work).resume reply) replies = some procedure := stands
      rw [resumes] at onward
      exact ih onward

end Procedure
end SecureShell.Sftp
