import NetSweep.Http.Exchange
import NetSweep.Json.Printer

/-!
# Scripted networks

A network that answers from a list of rules: each request takes the first rule left that is meant
for it, and uses the rule up unless it is to be kept.  Where no rule is left, a default answers.
Secure connections are beyond it.
-/

namespace NetSweep.Http

inductive Script.Reply where
  /-- the connection is closed without a response -/
  | hangUp
  | respond (response : Response)
deriving DecidableEq, Repr

structure Script.Rule where
  /-- the method and path that the rule is for; all of them if missing -/
  only : Option String
  /-- whether the rule outlives its use -/
  keep : Bool
  reply : Reply
deriving DecidableEq, Repr

structure Script where
  rules : List Script.Rule
  default : Script.Reply
deriving DecidableEq, Repr

namespace Script

def Reply.missing : Reply := .respond { status := 404, body := some [] }

def label (r : Request) : String := r.method.name ++ " " ++ Url.pathText r.url.path

def Rule.meets (rule : Rule) (r : Request) : Bool :=
  match rule.only with
  | none => true
  | some wanted => wanted = label r

/-- The reply of the first rule for a request and the rules left after it. -/
def take? (r : Request) : List Rule → Option (Reply × List Rule)
  | [] => none
  | rule :: rest =>
    if rule.meets r then some (rule.reply, if rule.keep then rule :: rest else rest)
    else (take? r rest).map fun (reply, left) => (reply, rule :: left)

def Reply.response? : Reply → Option Response
  | hangUp => none
  | respond response => some response

/-- The number of rules that can be used up. -/
def oneShot (s : Script) : Nat := (s.rules.filter (fun rule => !rule.keep)).length

def network : Network Script where
  send r s :=
    if r.url.scheme = "https" then (none, s)
    else
      match take? r s.rules with
      | some (reply, rules) => (reply.response?, { s with rules })
      | none => (s.default.response?, s)

end Script

end NetSweep.Http
