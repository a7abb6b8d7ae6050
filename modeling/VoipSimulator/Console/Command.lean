import VoipSimulator.Python.Value
import VoipSimulator.Python.Queue

/-! What one `api_command` handler computes on its own: the defaults it reads
from the body, its two checks with their 400 texts and the exceptions that
escape them (`VALID_COMMANDS` is a set, so a list or dict command raises
`TypeError`), the command message, the topics it goes to, and the reply for
each way a published command ends. -/

namespace VoipSimulator.Console

open VoipSimulator.Python

set_option autoImplicit false

def validCommands : List String :=
  ["task_create", "task_delete", "task_list", "task_status",
    "config_reload", "daemon_status", "daemon_stats", "daemon_shutdown"]

/-- The tuple `("uas", "uac", "*")` of accepted targets. -/
def validTargets : List String := ["uas", "uac", "*"]

def commandTopics : List (String × String) :=
  [("uas", "otus-uas-commands"), ("uac", "otus-uac-commands")]

/-- A request that passed the checks of `api_command`. -/
structure CommandRequest where
  target : String
  command : String
  payload : PyValue
  /-- The truth value of `wait`. -/
  wait : Bool
  target_valid : target ∈ validTargets
  command_valid : command ∈ validCommands

def CommandRequest.registers (request : CommandRequest) : Bool :=
  request.wait && request.target != "*"

structure Reply where
  status : Nat
  body : PyValue

def badRequest (message : String) : Reply := ⟨400, .dict [("error", .str message)]⟩

def bodyGet (body : PyValue) (key : String) (default : PyValue) : Except PyException PyValue :=
  match body with
  | .dict entries => .ok ((PyDict.get? entries key).getD default)
  | other => .error (.attributeError ("'" ++ typeName other ++ "' object has no attribute 'get'"))

def checkRequest (target command payload wait : PyValue) :
    Except PyException (Except Reply CommandRequest) :=
  match target with
  | .str t =>
      if validTarget : t ∈ validTargets then
        if command.hashable then
          match command with
          | .str c =>
              if validCommand : c ∈ validCommands then
                .ok (.ok ⟨t, c, payload, wait.truthy, validTarget, validCommand⟩)
              else .ok (.error (badRequest ("unknown command: " ++ c)))
          | other => .ok (.error (badRequest ("unknown command: " ++ other.toStr)))
        else .error (unhashable command)
      else .ok (.error (badRequest ("invalid target: " ++ t)))
  | other => .ok (.error (badRequest ("invalid target: " ++ other.toStr)))

/-- The top of `api_command`, up to the `request_id`: the request, the 400
reply, or the exception that escapes to Flask. -/
def parseCommand (body : PyValue) : Except PyException (Except Reply CommandRequest) := do
  let target ← bodyGet body "target" (.str "uas")
  let command ← bodyGet body "command" (.str "task_list")
  let payload ← bodyGet body "payload" (.dict [])
  let wait ← bodyGet body "wait" (.bool true)
  checkRequest target command payload wait

def commandMessage (request : CommandRequest) (requestId timestamp : String) : PyValue :=
  .dict [("version", .str "v1"), ("target", .str request.target),
    ("command", .str request.command), ("timestamp", .str timestamp),
    ("request_id", .str requestId),
    ("payload", if request.payload.truthy then request.payload else .dict [])]

/-- The topics the command is sent to: both for `*`, otherwise
`COMMAND_TOPICS.get(target, COMMAND_TOPICS["uas"])`. -/
def sendTopics (target : String) : List String :=
  if target = "*" then commandTopics.map Prod.snd
  else [(PyDict.get? commandTopics target).getD "otus-uas-commands"]

inductive Outcome
  /-- `wait` false or target `*`: answered at once. -/
  | accepted
  /-- The response the waiter's queue delivered. -/
  | answered (response : PyValue)
  /-- The send or the flush raised `KafkaError`. -/
  | publishFailed (message : String)
  /-- The 30 s `get` found the queue empty. -/
  | timedOut

def errorIsNone (response : PyValue) : Bool :=
  match PyDict.get? (messageEntries response) "error" with
  | none => true
  | some .none => true
  | some _ => false

def Outcome.reply (requestId : String) : Outcome → Reply
  | .accepted => ⟨200, .dict [("ok", .bool true), ("request_id", .str requestId)]⟩
  | .answered response => ⟨200, .dict [("ok", .bool (errorIsNone response)),
      ("request_id", .str requestId), ("response", response)]⟩
  | .publishFailed message => ⟨500, .dict [("error", .str message)]⟩
  | .timedOut => ⟨504, .dict [("ok", .bool false), ("request_id", .str requestId),
      ("error", .str "timeout waiting for response")]⟩

/-! ### The checks -/

theorem parse_command_empty :
    ∃ valid, parseCommand (.dict []) = .ok (.ok ⟨"uas", "task_list", .dict [], true,
      (by decide), valid⟩) :=
  ⟨by decide, rfl⟩

theorem parse_command_dict (entries : List (String × PyValue)) :
    parseCommand (.dict entries) = checkRequest
      ((PyDict.get? entries "target").getD (.str "uas"))
      ((PyDict.get? entries "command").getD (.str "task_list"))
      ((PyDict.get? entries "payload").getD (.dict []))
      ((PyDict.get? entries "wait").getD (.bool true)) := rfl

/-- A body that is not a JSON object raises `AttributeError` at its first
`get`. -/
theorem parse_command_not_dict (body : PyValue) (notDict : ∀ entries, body ≠ .dict entries) :
    parseCommand body =
      .error (.attributeError ("'" ++ typeName body ++ "' object has no attribute 'get'")) := by
  cases body with
  | dict entries => exact absurd rfl (notDict entries)
  | _ => rfl

/-- What the checks accept: a string target among the three and a string
command in `VALID_COMMANDS`; every 400 reply names the value that failed its
check, and the only exception is the `TypeError` of an unhashable command
behind a valid target. -/
theorem check_request_cases (target command payload wait : PyValue) :
    (∃ t c, target = .str t ∧ command = .str c ∧ ∃ validTarget validCommand,
        checkRequest target command payload wait =
          .ok (.ok ⟨t, c, payload, wait.truthy, validTarget, validCommand⟩)) ∨
      (checkRequest target command payload wait =
          .ok (.error (badRequest ("invalid target: " ++ target.toStr))) ∧
        ∀ t, target = .str t → t ∉ validTargets) ∨
      (checkRequest target command payload wait =
          .ok (.error (badRequest ("unknown command: " ++ command.toStr))) ∧
        command.hashable = true ∧ ∀ c, command = .str c → c ∉ validCommands) ∨
      (checkRequest target command payload wait = .error (unhashable command) ∧
        command.hashable = false) := by
  unfold checkRequest
  split
  · rename_i t
    by_cases validTarget : t ∈ validTargets
    · simp only [validTarget, dif_pos]
      cases hashed : command.hashable
      · exact .inr (.inr (.inr ⟨by simp, rfl⟩))
      · simp only [if_true]
        split
        · rename_i c
          by_cases validCommand : c ∈ validCommands
          · exact .inl ⟨t, c, rfl, rfl, validTarget, validCommand, by simp [validCommand]⟩
          · exact .inr (.inr (.inl ⟨by simp [validCommand, PyValue.toStr], trivial,
              fun _ same => by cases same; exact validCommand⟩))
        · rename_i other notStr
          exact .inr (.inr (.inl ⟨rfl, trivial, fun c same => absurd same (notStr c)⟩))
    · exact .inr (.inl ⟨by simp [validTarget, PyValue.toStr], fun _ same => by
        cases same; exact validTarget⟩)
  · rename_i other notStr
    exact .inr (.inl ⟨rfl, fun t same => absurd same (notStr t)⟩)

/-! ### The command message -/

theorem command_message_request_id (request : CommandRequest) (requestId timestamp : String) :
    PyDict.get? (messageEntries (commandMessage request requestId timestamp)) "request_id" =
      some (.str requestId) := by
  simp [commandMessage, messageEntries, PyDict.get?]

theorem send_topics_of_target (request : CommandRequest) :
    sendTopics request.target =
      if request.target = "uas" then ["otus-uas-commands"]
      else if request.target = "uac" then ["otus-uac-commands"]
      else ["otus-uas-commands", "otus-uac-commands"] := by
  have valid := request.target_valid
  simp only [validTargets, List.mem_cons, List.mem_singleton, List.not_mem_nil, or_false] at valid
  rcases valid with same | same | same <;> rw [same] <;> rfl

end VoipSimulator.Console
