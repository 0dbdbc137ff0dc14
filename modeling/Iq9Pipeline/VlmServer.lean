import Iq9Pipeline.Foundation.JsonReader
import Iq9Pipeline.Foundation.Machine

/-!
The HTTP server in front of the language model (`vlm_http_server.py`): one thread that
handles a request at a time, the lock that it takes in `do_POST` and again in `call_genie`,
and the pipes to the genie process and back.
-/

namespace Iq9Pipeline.VlmServer

open Foundation Foundation.JsonText

inductive PyError
  | attributeError
  | typeError
  | valueError
  | indexError
  | binasciiError
  | runtimeError
  | jsonDecodeError
  | other
deriving DecidableEq

/-- `value.get(key, default)`: only a dict has it, and a later member hides an earlier one. -/
def get (value : Value) (key : String) (default : Value) : Except PyError Value :=
  match value with
  | .object members =>
      .ok (((members.reverse.find? fun member => member.1 = key).map Prod.snd).getD default)
  | _ => .error .attributeError

def iterate : Value → Except PyError (List Value)
  | .array elements => .ok elements
  | .object members => .ok (members.map fun member => .string member.1)
  | .string text => .ok (text.toList.map fun character => .string character.toString)
  | _ => .error .typeError

def isBase64 (character : Char) : Bool :=
  character.isAlphanum || character = '+' || character = '/'

def a2bBase64 (quadPos pads : Nat) : List Char → Except PyError Unit
  | [] => if quadPos = 0 then .ok () else .error .binasciiError
  | character :: rest =>
      if character = '=' then
        if 2 ≤ quadPos ∧ 4 ≤ quadPos + (pads + 1) then .ok ()
        else a2bBase64 quadPos (if 2 ≤ quadPos then pads + 1 else pads) rest
      else if isBase64 character then a2bBase64 ((quadPos + 1) % 4) 0 rest
      else a2bBase64 quadPos pads rest

def b64decode (text : String) : Except PyError Unit :=
  if text.toList.all fun character => character.toNat < 128 then a2bBase64 0 0 text.toList
  else .error .valueError

structure Extracted where
  prompt : Value
  imageB64 : Option String

def behindComma (url : String) : Except PyError String :=
  match url.toList.dropWhile fun character => character ≠ ',' with
  | [] => .error .indexError
  | _ :: rest => .ok (String.ofList rest)

def imageUrl (extracted : Extracted) (url : Value) : Except PyError Extracted :=
  match url with
  | .string text =>
      if text.startsWith "data:image" then
        (behindComma text).map fun image => { extracted with imageB64 := some image }
      else .ok extracted
  | _ => .error .attributeError

def readPart (extracted : Extracted) (part : Value) : Except PyError Extracted :=
  (get part "type" .null).bind fun kind =>
    match kind with
    | .string "text" =>
        (get part "text" (.string "")).map fun text => { extracted with prompt := text }
    | .string "image_url" =>
        (get part "image_url" (.object [])).bind fun image =>
          (get image "url" (.string "")).bind fun url => imageUrl extracted url
    | _ => .ok extracted

def readMessage (extracted : Extracted) (message : Value) : Except PyError Extracted :=
  (get message "content" (.string "")).bind fun content =>
    match content with
    | .array parts => parts.foldlM readPart extracted
    | .string text => .ok { extracted with prompt := .string text }
    | _ => .ok extracted

def extract (req : Value) : Except PyError Extracted :=
  (get req "messages" (.array [])).bind fun messages =>
    (iterate messages).bind fun list => list.foldlM readMessage ⟨.string "", none⟩

structure PostRequest where
  path : String
  /-- `int` of the header, absent where it raises. -/
  contentLength : Option Int
  stream : List UInt8

def readBody (request : PostRequest) (length : Int) : List UInt8 :=
  if length < 0 then request.stream else request.stream.take length.toNat

inductive Opening
  | errorSent (status : Nat)
  | raised (error : PyError)
  | call (prompt timeout : Value)

/-- The picture is decoded and not used any further. -/
def decodeImage : Option String → Except PyError Unit
  | none => .ok ()
  | some image => if image = "" then .ok () else b64decode image

def openCall (req : Value) : Except PyError Opening :=
  (extract req).bind fun extracted =>
    (decodeImage extracted.imageB64).bind fun _ =>
      (get req "timeout" (.number (utf8 "60"))).map fun timeout =>
        .call extracted.prompt timeout

def doPost (loads : List UInt8 → Except PyError Value) (request : PostRequest) : Opening :=
  if request.path ≠ "/v1/chat/completions" then .errorSent 404
  else match request.contentLength with
    | none => .raised .valueError
    | some length =>
        match loads (readBody request length) with
        | .error .jsonDecodeError => .errorSent 400
        | .error error => .raised error
        | .ok req =>
            match openCall req with
            | .error error => .raised error
            | .ok opening => opening

/-- Where the handler stands: before a `with GENIE_LOCK`, inside `call_genie`, or leaving
the two blocks with a text or an exception. -/
inductive HandlerPhase
  | idle
  | outerLock (prompt timeout : Value)
  | innerLock (prompt timeout : Value)
  | writing (prompt timeout : Value)
  | reading (prompt timeout : Value) (lines : List String)
  | innerRelease (prompt : Value) (result : Except PyError String)
  | outerRelease (prompt : Value) (result : Except PyError String)
  | responding (prompt : Value) (result : Except PyError String)

structure GenieServer where
  pending : List PostRequest
  phase : HandlerPhase
  locked : Bool
  stdin : List String
  speaking : List String
  stdout : List String
  errors : List Nat
  answers : List (Value × String)

/-- A turn of the loop in `call_genie`: the time is over, or a line or the end is read. -/
inductive LoopTurn
  | expired
  | line
  | ended

inductive ServerStep
  | takeUp
  | proceed (turn : LoopTurn)
  | genieReads
  | genieWrites

def isSpace (character : Char) : Bool :=
  let code := character.toNat
  (0x9 ≤ code && code ≤ 0xd) || (0x1c ≤ code && code ≤ 0x20) || code = 0x85 || code = 0xa0 ||
    code = 0x1680 || (0x2000 ≤ code && code ≤ 0x200a) || code = 0x2028 || code = 0x2029 ||
    code = 0x202f || code = 0x205f || code = 0x3000

def isBlankLine (line : String) : Bool :=
  line.toList.all isSpace

def isNumeric : Value → Bool
  | .number _ => true
  | .boolean _ => true
  | _ => false

def joinLines (lines : List String) : String :=
  "\n".intercalate lines

namespace GenieServer

def takeUp (loads : List UInt8 → Except PyError Value) (server : GenieServer) :
    Option GenieServer :=
  match server.phase, server.pending with
  | .idle, request :: pending =>
      some (match doPost loads request with
        | .errorSent status =>
            { server with pending := pending, errors := server.errors ++ [status] }
        | .raised _ => { server with pending := pending }
        | .call prompt timeout =>
            { server with pending := pending, phase := .outerLock prompt timeout })
  | _, _ => none

def readAnswer (server : GenieServer) (prompt timeout : Value) (lines : List String) :
    LoopTurn → Option GenieServer
  | .expired => some { server with phase := .innerRelease prompt (.ok (joinLines lines)) }
  | .ended =>
      if server.stdout = [] then
        some { server with phase := .innerRelease prompt (.ok (joinLines lines)) }
      else none
  | .line =>
      match server.stdout with
      | [] => none
      | line :: stdout =>
          some { server with
            stdout := stdout
            phase :=
              if isBlankLine line then .innerRelease prompt (.ok (joinLines (lines ++ [line])))
              else .reading prompt timeout (lines ++ [line]) }

/-- The next instruction of the handler. The lock is not reentrant: to take it while it is
held is to wait, and to release it while it is free raises. -/
def proceed (server : GenieServer) (turn : LoopTurn) : Option GenieServer :=
  match server.phase with
  | .idle => none
  | .outerLock prompt timeout =>
      if server.locked then none
      else some { server with locked := true, phase := .innerLock prompt timeout }
  | .innerLock prompt timeout =>
      if server.locked then none
      else some { server with locked := true, phase := .writing prompt timeout }
  | .writing prompt timeout =>
      match prompt with
      | .string text =>
          some { server with
            stdin := server.stdin ++ text.splitOn "\n"
            phase := .reading prompt timeout [] }
      | _ => some { server with phase := .innerRelease prompt (.error .typeError) }
  | .reading prompt timeout lines =>
      if isNumeric timeout then server.readAnswer prompt timeout lines turn
      else some { server with phase := .innerRelease prompt (.error .typeError) }
  | .innerRelease prompt result =>
      some { server with
        locked := false
        phase := .outerRelease prompt (if server.locked then result else .error .runtimeError) }
  | .outerRelease prompt result =>
      some { server with
        locked := false
        phase := .responding prompt (if server.locked then result else .error .runtimeError) }
  | .responding prompt result =>
      match result with
      | .ok text =>
          some { server with phase := .idle, answers := server.answers ++ [(prompt, text)] }
      | .error _ => some { server with phase := .idle }

/-- `genie` is the answer to a line, without the empty line that closes it. -/
def step (loads : List UInt8 → Except PyError Value) (genie : String → List String)
    (server : GenieServer) : ServerStep → Option GenieServer
  | .takeUp => server.takeUp loads
  | .proceed turn => server.proceed turn
  | .genieReads =>
      match server.stdin with
      | [] => none
      | line :: stdin =>
          some { server with
            stdin := stdin, speaking := server.speaking ++ (genie line ++ [""]) }
  | .genieWrites =>
      match server.speaking with
      | [] => none
      | line :: speaking =>
          some { server with speaking := speaking, stdout := server.stdout ++ [line] }

def listening (requests : List PostRequest) : GenieServer where
  pending := requests
  phase := .idle
  locked := false
  stdin := []
  speaking := []
  stdout := []
  errors := []
  answers := []

def machine (loads : List UInt8 → Except PyError Value) (genie : String → List String)
    (requests : List PostRequest) : Machine GenieServer ServerStep where
  start server := server = listening requests
  step := step loads genie

def selfWaiting (server : GenieServer) : Bool :=
  match server.phase with
  | .outerLock _ _ => server.locked
  | .innerLock _ _ => server.locked
  | _ => false

def Paired (genie : String → List String) (server : GenieServer) : Prop :=
  ∀ answer ∈ server.answers, ∃ text, answer.1 = .string text ∧
    answer.2 = joinLines (genie text ++ [""])

end GenieServer

def reachesCall (loads : List UInt8 → Except PyError Value) (request : PostRequest) : Bool :=
  match doPost loads request with
  | .call _ _ => true
  | _ => false

namespace GenieServer

variable {loads : List UInt8 → Except PyError Value} {genie : String → List String}
  {requests : List PostRequest} {server next : GenieServer} {label : ServerStep}

structure Quiet (loads : List UInt8 → Except PyError Value) (server : GenieServer) : Prop where
  idle : server.phase = .idle
  unanswered : server.answers = []
  pending : ∀ request ∈ server.pending, reachesCall loads request = false

theorem Quiet.step (quiet : Quiet loads server)
    (stepped : server.step loads genie label = some next) : Quiet loads next := by
  obtain ⟨idle, unanswered, pending⟩ := quiet
  cases label with
  | takeUp =>
      simp only [GenieServer.step, takeUp, idle] at stepped
      split at stepped
      · rename_i request rest _ found
        rw [found, List.forall_mem_cons] at pending
        rw [Option.some.injEq] at stepped
        subst stepped
        obtain ⟨turnedAway, pending⟩ := pending
        rw [reachesCall] at turnedAway
        cases opening : doPost loads request with
        | errorSent status => exact ⟨rfl, unanswered, pending⟩
        | raised error => exact ⟨rfl, unanswered, pending⟩
        | call prompt timeout =>
            rw [opening] at turnedAway
            cases turnedAway
      · simp at stepped
  | proceed turn => simp [GenieServer.step, proceed, idle] at stepped
  | genieReads =>
      simp only [GenieServer.step] at stepped
      split at stepped
      · simp at stepped
      · rw [Option.some.injEq] at stepped
        exact stepped ▸ ⟨idle, unanswered, pending⟩
  | genieWrites =>
      simp only [GenieServer.step] at stepped
      split at stepped
      · simp at stepped
      · rw [Option.some.injEq] at stepped
        exact stepped ▸ ⟨idle, unanswered, pending⟩

theorem takeUp_call {first : PostRequest} {rest : List PostRequest} {prompt timeout : Value}
    (idle : server.phase = .idle) (pending : server.pending = first :: rest)
    (opening : doPost loads first = .call prompt timeout) :
    server.takeUp loads =
      some { server with pending := rest, phase := .outerLock prompt timeout } := by
  simp [takeUp, idle, pending, opening]

theorem takeUp_refused {first : PostRequest} {rest : List PostRequest}
    (idle : server.phase = .idle) (pending : server.pending = first :: rest)
    (refused : reachesCall loads first = false) :
    ∃ errors, server.takeUp loads = some { server with pending := rest, errors := errors } := by
  rw [reachesCall] at refused
  cases opening : doPost loads first with
  | errorSent status =>
      exact ⟨server.errors ++ [status], by simp [takeUp, idle, pending, opening]⟩
  | raised error => exact ⟨server.errors, by simp [takeUp, idle, pending, opening]⟩
  | call prompt timeout =>
      rw [opening] at refused
      cases refused

theorem selfWaiting_of_pending
    (reachable : (machine loads genie requests).Reachable server)
    (idle : server.phase = .idle) (free : server.locked = false) {request : PostRequest}
    (waiting : request ∈ server.pending) (reaches : reachesCall loads request = true) :
    ∃ stuck, (machine loads genie requests).Reachable stuck ∧ stuck.selfWaiting = true := by
  induction pending : server.pending generalizing server with
  | nil =>
      rw [pending] at waiting
      cases waiting
  | cons first rest ih =>
      cases passes : reachesCall loads first with
      | false =>
          obtain ⟨errors, taken⟩ := takeUp_refused idle pending passes
          have stepped : (machine loads genie requests).step server .takeUp = _ := taken
          have rested := reachable.next stepped
          refine ih rested idle free ?_ rfl
          rw [pending] at waiting
          rcases List.mem_cons.mp waiting with rfl | later
          · exact absurd (passes.symm.trans reaches) Bool.false_ne_true
          · exact later
      | true =>
          rw [reachesCall] at passes
          cases opening : doPost loads first with
          | call prompt timeout =>
              have taken : (machine loads genie requests).step server .takeUp = _ :=
                takeUp_call idle pending opening
              have locked : (machine loads genie requests).step
                  { server with pending := rest, phase := .outerLock prompt timeout }
                  (.proceed .line) = some { server with
                    pending := rest, phase := .innerLock prompt timeout, locked := true } := by
                simp [machine, GenieServer.step, proceed, free]
              exact ⟨_, (reachable.next taken).next locked, rfl⟩
          | errorSent status =>
              rw [opening] at passes
              cases passes
          | raised error =>
              rw [opening] at passes
              cases passes

/-- The pairs are kept, and nobody waits for a lock of its own, if and only if no request
gets as far as genie. -/
theorem keepsPairs_iff (loads : List UInt8 → Except PyError Value)
    (genie : String → List String) (requests : List PostRequest) :
    (∀ server, (machine loads genie requests).Reachable server →
        server.selfWaiting = false ∧ Paired genie server) ↔
      ∀ request ∈ requests, reachesCall loads request = false := by
  constructor
  · intro kept request member
    by_contra reaches
    rw [Bool.not_eq_false] at reaches
    have begun : (machine loads genie requests).Reachable (listening requests) :=
      Machine.ReachableUnder.start rfl
    obtain ⟨stuck, reachable, waiting⟩ := selfWaiting_of_pending begun rfl rfl member reaches
    exact absurd ((kept stuck reachable).1.symm.trans waiting) Bool.false_ne_true
  · intro refused server reachable
    have quiet : Quiet loads server := by
      refine reachable.invariant (Quiet loads) ?_ ?_
      · rintro _ rfl
        exact ⟨rfl, rfl, refused⟩
      · exact fun server label next quiet stepped => quiet.step stepped
    constructor
    · rw [selfWaiting, quiet.idle]
    · intro answer member
      rw [quiet.unanswered] at member
      cases member

def loadsText (bytes : List UInt8) : Except PyError Value :=
  match read bytes with
  | some value => .ok value
  | none => .error .jsonDecodeError

def helloRequest : PostRequest where
  path := "/v1/chat/completions"
  contentLength := some 34
  stream := utf8 "\x7b\"messages\":[\x7b\"content\":\"hello\"\x7d]\x7d"

theorem handlerWaitsForItself : ¬ ∀ (loads : List UInt8 → Except PyError Value)
    (genie : String → List String) (requests : List PostRequest) (server : GenieServer),
    (machine loads genie requests).Reachable server →
    server.selfWaiting = false ∧ Paired genie server := by
  intro universal
  have ran : ((machine loadsText (fun _ => ["hi"]) [helloRequest]).run (fun _ _ => True)
      (listening [helloRequest]) [.takeUp, .proceed .line]).map selfWaiting = some true := by
    decide +kernel
  obtain ⟨stuck, ran, waiting⟩ := Option.map_eq_some_iff.mp ran
  have kept := universal loadsText (fun _ => ["hi"]) [helloRequest] stuck
    (Machine.ReachableUnder.run (Machine.ReachableUnder.start rfl) ran)
  exact absurd (kept.1.symm.trans waiting) Bool.false_ne_true

end GenieServer

end Iq9Pipeline.VlmServer
