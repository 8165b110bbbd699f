import KeySweeper.Server.Reply

/-!
# Connections to a server

A connection answers commands with replies that are laid down beforehand, for each command in order;
when none is left it answers with an error. Every command that was sent is kept with its arguments.
-/

namespace KeySweeper

/-- The replies laid down for each command. -/
abbrev ReplyPlan := List (String × List ServerReply)

namespace ReplyPlan

/-- Takes the next reply to a command. -/
def take? (command : String) : ReplyPlan → Option (ServerReply × ReplyPlan)
  | [] => none
  | (name, replies) :: rest =>
    if name = command then
      match replies with
      | [] => none
      | reply :: more => some (reply, (name, more) :: rest)
    else (take? command rest).map fun (reply, rest) => (reply, (name, replies) :: rest)

/-- How many replies are left. -/
def remaining : ReplyPlan → Nat
  | [] => 0
  | (_, replies) :: rest => replies.length + remaining rest

/-- The number of parts of all replies. -/
def weight : ReplyPlan → Nat
  | [] => 0
  | (_, replies) :: rest => ServerReply.weightOf replies + weight rest

/-- Taking a reply leaves one reply less. -/
theorem remaining_take? {command : String} {plan next : ReplyPlan} {reply : ServerReply}
    (taken : take? command plan = some (reply, next)) : next.remaining < plan.remaining := by
  induction plan generalizing next with
  | nil => simp [take?] at taken
  | cons entry rest inductionHypothesis =>
    obtain ⟨name, replies⟩ := entry
    unfold take? at taken
    split at taken
    · split at taken
      · contradiction
      · cases taken
        simp only [remaining, List.length_cons]
        omega
    · cases found : take? command rest with
      | none => simp [found] at taken
      | some pair =>
        obtain ⟨r, plan⟩ := pair
        simp only [found, Option.map_some, Option.some.injEq, Prod.mk.injEq] at taken
        obtain ⟨rfl, rfl⟩ := taken
        have smaller := inductionHypothesis found
        simp only [remaining]
        omega

end ReplyPlan

/-- A command that was sent, with its arguments. -/
structure SentCommand where
  /-- The name of the command. -/
  name : String
  /-- The arguments in order. -/
  arguments : List String
deriving DecidableEq, Repr

/-- A connection to a server. -/
structure Connection where
  /-- The replies that are left. -/
  plan : ReplyPlan
  /-- The commands sent, oldest first. -/
  sent : List SentCommand
deriving Repr

namespace Connection

/-- What a server answers when no reply is laid down. -/
def exhausted : ServerError := .ofLine "ERR no scripted reply"

/-- Sends a command and reads the reply to it. -/
def ask (c : Connection) (name : String) (arguments : List String) :
    Except ServerError ServerReply × Connection :=
  let sent := c.sent ++ [⟨name, arguments⟩]
  match c.plan.take? name with
  | none => (.error exhausted, { c with sent })
  | some (reply, plan) =>
    match reply.error? with
    | some e => (.error e, ⟨plan, sent⟩)
    | none => (.ok reply, ⟨plan, sent⟩)

/-- Sends a command and reads the reply in a type. -/
def askFor {α : Type} (c : Connection) (read : ServerReply → Except ServerError α) (name : String)
    (arguments : List String) : Except ServerError α × Connection :=
  let (answer, next) := c.ask name arguments
  (answer.bind read, next)

/-- A command that is answered without an error has used up a reply. -/
theorem remaining_ask {c : Connection} {name : String} {arguments : List String}
    {reply : ServerReply} (answered : (c.ask name arguments).1 = .ok reply) :
    (c.ask name arguments).2.plan.remaining < c.plan.remaining := by
  unfold ask at answered ⊢
  cases taken : c.plan.take? name with
  | none => simp [taken] at answered
  | some pair =>
    obtain ⟨r, plan⟩ := pair
    have smaller := ReplyPlan.remaining_take? taken
    simp only
    split <;> exact smaller

end Connection

end KeySweeper
