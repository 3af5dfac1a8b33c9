import Mathlib
import SqlDesk.Proofs.Json.Collect
import SqlDesk.Proofs.Rpc.Frames

/-!
What the object in a frame is taken for. A call has a version and a method. It is a request if its id
stands there once and is an integer of 64 bits or a text; if not, it is a notification, whether the id is
missing, repeated or of another kind. Only what is no call can be a response.
-/

set_option autoImplicit false

namespace SqlDesk.Rpc

open SqlDesk.Json

variable {limit : Nat} {members : List (String × Json)}

theorem word?_eq_some_iff {json : Json} {value : Int64} :
    word? json = some value ↔ json = .integer value.toInt := by
  have bound : (Text.wordBound (64 - 1) : Int) = 2 ^ 63 := by decide
  rw [word?, Option.map_eq_some_iff]
  constructor
  · rintro ⟨number, read, rfl⟩
    obtain ⟨rfl, least, below⟩ := asSigned?_eq_some_iff.mp read
    rw [Int64.toInt_ofInt_of_le (by omega) (by omega)]
  · rintro rfl
    have least := value.le_toInt
    have below := value.toInt_lt
    refine ⟨value.toInt, asSigned?_eq_some_iff.mpr ⟨rfl, ?_, ?_⟩, Int64.ofInt_toInt value⟩
    · omega
    · omega

theorem MessageId.ofJson?_eq_some_iff {json : Json} {id : MessageId} :
    MessageId.ofJson? json = some id ↔ json = id.toJson := by
  constructor
  · intro read
    unfold MessageId.ofJson? at read
    split at read
    · obtain rfl := Option.some.inj read
      rfl
    · obtain ⟨value, word, rfl⟩ := Option.map_eq_some_iff.mp read
      exact word?_eq_some_iff.mp word
  · rintro rfl
    cases id with
    | text value => rfl
    | number value =>
      have word : word? (.integer value.toInt) = some value := word?_eq_some_iff.mpr rfl
      rw [MessageId.toJson, MessageId.ofJson?, word]
      · rfl
      · intro text other
        cases other

theorem ResponseError.ofJson?_toJson (error : ResponseError) :
    ResponseError.ofJson? error.toJson = some error := by
  have fields : objectFields? ["code", "message"]
      [("code", .integer error.code.toInt), ("message", .string error.message)] =
        some [some (.integer error.code.toInt), some (.string error.message)] := rfl
  have code : required? word? (some (.integer error.code.toInt)) = some error.code :=
    word?_eq_some_iff.mpr rfl
  rw [ResponseError.toJson, ResponseError.ofJson?, fields?, fields]
  simp only [Option.bind_eq_bind, Option.bind_some, code]
  rfl

/-! ## Calls -/

/-- The parameters of a call are null if they are missing. -/
def settled (given : Option Json) : Json := given.elim .null settle

theorem defaulted?_anyJson (given : Option Json) :
    defaulted? .null anyJson? given = some (settled given) := by
  cases given <;> rfl

/-- The members call a method, each name of a call standing among them once. -/
structure Calls (members : List (String × Json)) (version method : String) (params : Json) : Prop where
  version : valuesOf members "jsonrpc" = [.string version]
  method : valuesOf members "method" = [.string method]
  params : ∃ given : Option Json, valuesOf members "params" = given.toList ∧ settled given = params

theorem Request.ofJson?_eq_some_iff {request : Request} :
    Request.ofJson? (.object members) = some request ↔
      Calls members request.version request.method request.params ∧
        valuesOf members "id" = [request.id.toJson] := by
  constructor
  · intro read
    -- The fields come in the order of their names, and each reader says what its field is.
    obtain ⟨fields, found, read⟩ := Option.bind_eq_some_iff.mp read
    obtain _ | ⟨atVersion, _ | ⟨atId, _ | ⟨atMethod, _ | ⟨atParams, _ | _⟩⟩⟩⟩ :=
      objectFields?_eq_some_iff.mp found
    simp only [Option.bind_eq_bind, Option.bind_eq_some_iff, required?_eq_some_iff,
      asString?_eq_some_iff, MessageId.ofJson?_eq_some_iff, defaulted?_anyJson] at read
    obtain ⟨version, ⟨_, rfl, rfl⟩, id, ⟨_, rfl, rfl⟩, method, ⟨_, rfl, rfl⟩, params, same, made⟩ := read
    obtain rfl := Option.some.inj same
    obtain rfl := Option.some.inj made
    exact ⟨⟨atVersion, atMethod, _, atParams, rfl⟩, atId⟩
  · rintro ⟨⟨atVersion, atMethod, given, atParams, params⟩, atId⟩
    have found : objectFields? ["jsonrpc", "id", "method", "params"] members =
        some [some (.string request.version), some request.id.toJson,
          some (.string request.method), given] :=
      objectFields?_eq_some_iff.mpr
        (.cons atVersion (.cons atId (.cons atMethod (.cons atParams .nil))))
    have id : required? MessageId.ofJson? (some request.id.toJson) = some request.id :=
      MessageId.ofJson?_eq_some_iff.mpr rfl
    rw [Request.ofJson?, fields?, found]
    simp only [Option.bind_eq_bind, Option.bind_some, id, defaulted?_anyJson, params]
    rfl

theorem Notification.ofJson?_eq_some_iff {notification : Notification} :
    Notification.ofJson? (.object members) = some notification ↔
      Calls members notification.version notification.method notification.params := by
  constructor
  · intro read
    obtain ⟨fields, found, read⟩ := Option.bind_eq_some_iff.mp read
    obtain _ | ⟨atVersion, _ | ⟨atMethod, _ | ⟨atParams, _ | _⟩⟩⟩ := objectFields?_eq_some_iff.mp found
    simp only [Option.bind_eq_bind, Option.bind_eq_some_iff, required?_eq_some_iff,
      asString?_eq_some_iff, defaulted?_anyJson] at read
    obtain ⟨version, ⟨_, rfl, rfl⟩, method, ⟨_, rfl, rfl⟩, params, same, made⟩ := read
    obtain rfl := Option.some.inj same
    obtain rfl := Option.some.inj made
    exact ⟨atVersion, atMethod, _, atParams, rfl⟩
  · rintro ⟨atVersion, atMethod, given, atParams, params⟩
    have found : objectFields? ["jsonrpc", "method", "params"] members =
        some [some (.string notification.version), some (.string notification.method), given] :=
      objectFields?_eq_some_iff.mpr (.cons atVersion (.cons atMethod (.cons atParams .nil)))
    rw [Notification.ofJson?, fields?, found]
    simp only [Option.bind_eq_bind, Option.bind_some, defaulted?_anyJson, params]
    rfl

/-! ## Answers -/

structure Answers (members : List (String × Json)) (response : Response) : Prop where
  version : valuesOf members "jsonrpc" = [.string response.version]
  id : valuesOf members "id" = [response.id.toJson]
  result : ∃ given : Option Json, valuesOf members "result" = given.toList ∧
    optional? anyJson? given = some response.result
  error : ∃ given : Option Json, valuesOf members "error" = given.toList ∧
    optional? ResponseError.ofJson? given = some response.error

theorem Response.ofJson?_eq_some_iff {response : Response} :
    Response.ofJson? (.object members) = some response ↔ Answers members response := by
  constructor
  · intro read
    obtain ⟨fields, found, read⟩ := Option.bind_eq_some_iff.mp read
    obtain _ | ⟨atVersion, _ | ⟨atId, _ | ⟨atResult, _ | ⟨atError, _ | _⟩⟩⟩⟩ :=
      objectFields?_eq_some_iff.mp found
    simp only [Option.bind_eq_bind, Option.bind_eq_some_iff, required?_eq_some_iff,
      asString?_eq_some_iff, MessageId.ofJson?_eq_some_iff] at read
    obtain ⟨version, ⟨_, rfl, rfl⟩, id, ⟨_, rfl, rfl⟩, result, ofResult, error, ofError, made⟩ := read
    obtain rfl := Option.some.inj made
    exact ⟨atVersion, atId, ⟨_, atResult, ofResult⟩, _, atError, ofError⟩
  · rintro ⟨atVersion, atId, ⟨result, atResult, ofResult⟩, error, atError, ofError⟩
    have found : objectFields? ["jsonrpc", "id", "result", "error"] members =
        some [some (.string response.version), some response.id.toJson, result, error] :=
      objectFields?_eq_some_iff.mpr
        (.cons atVersion (.cons atId (.cons atResult (.cons atError .nil))))
    have id : required? MessageId.ofJson? (some response.id.toJson) = some response.id :=
      MessageId.ofJson?_eq_some_iff.mpr rfl
    rw [Response.ofJson?, fields?, found]
    simp only [Option.bind_eq_bind, Option.bind_some, id, ofResult, ofError]
    rfl

/-! ## Messages -/

section Messages

variable {request : Request} {notification : Notification} {response : Response}

theorem Request.ofJson?_eq_none_iff :
    Request.ofJson? (.object members) = none ↔
      ∀ (version method : String) (params : Json), Calls members version method params →
        ∀ id : MessageId, valuesOf members "id" ≠ [id.toJson] := by
  rw [Option.eq_none_iff_forall_ne_some]
  constructor
  · intro unread version method params calls id same
    exact unread ⟨version, id, method, params⟩ (Request.ofJson?_eq_some_iff.mpr ⟨calls, same⟩)
  · intro unnumbered request read
    obtain ⟨calls, id⟩ := Request.ofJson?_eq_some_iff.mp read
    exact unnumbered _ _ _ calls request.id id

theorem Notification.ofJson?_eq_none_iff :
    Notification.ofJson? (.object members) = none ↔
      ∀ (version method : String) (params : Json), ¬ Calls members version method params := by
  rw [Option.eq_none_iff_forall_ne_some]
  constructor
  · intro unread version method params calls
    exact unread ⟨version, method, params⟩ (Notification.ofJson?_eq_some_iff.mpr calls)
  · intro callless notification read
    exact callless _ _ _ (Notification.ofJson?_eq_some_iff.mp read)

/-- A value is of the first kind that it can be read as. -/
theorem Message.ofJson?_eq_some_iff {json : Json} {message : Message} :
    Message.ofJson? json = some message ↔
      match message with
      | .request request => Request.ofJson? json = some request
      | .notification notification =>
        Request.ofJson? json = none ∧ Notification.ofJson? json = some notification
      | .response response =>
        Request.ofJson? json = none ∧ Notification.ofJson? json = none ∧
          Response.ofJson? json = some response := by
  rw [Message.ofJson?]
  cases Request.ofJson? json with
  | some request => cases message <;> simp
  | none =>
    cases Notification.ofJson? json with
    | some notification => cases message <;> simp
    | none => cases message <;> simp

theorem Message.ofJson?_eq_request_iff :
    Message.ofJson? (.object members) = some (.request request) ↔
      Calls members request.version request.method request.params ∧
        valuesOf members "id" = [request.id.toJson] := by
  rw [Message.ofJson?_eq_some_iff]
  exact Request.ofJson?_eq_some_iff

theorem Message.ofJson?_eq_notification_iff :
    Message.ofJson? (.object members) = some (.notification notification) ↔
      Calls members notification.version notification.method notification.params ∧
        ∀ id : MessageId, valuesOf members "id" ≠ [id.toJson] := by
  rw [Message.ofJson?_eq_some_iff]
  dsimp only
  rw [Notification.ofJson?_eq_some_iff, Request.ofJson?_eq_none_iff]
  constructor
  · rintro ⟨unnumbered, calls⟩
    exact ⟨calls, unnumbered _ _ _ calls⟩
  · rintro ⟨calls, unnumbered⟩
    exact ⟨fun _ _ _ _ => unnumbered, calls⟩

theorem Message.ofJson?_eq_response_iff :
    Message.ofJson? (.object members) = some (.response response) ↔
      Answers members response ∧
        ∀ (version method : String) (params : Json), ¬ Calls members version method params := by
  rw [Message.ofJson?_eq_some_iff]
  dsimp only
  rw [Request.ofJson?_eq_none_iff, Notification.ofJson?_eq_none_iff, Response.ofJson?_eq_some_iff]
  constructor
  · rintro ⟨-, callless, answers⟩
    exact ⟨answers, callless⟩
  · rintro ⟨answers, callless⟩
    -- What is no call at all is no call with an id either.
    refine ⟨?_, callless, answers⟩
    intro version method params calls
    exact (callless version method params calls).elim

end Messages

theorem Received.ofBody_eq_message_iff {text : String} {json : Json} {message : Message}
    (read : parseRaw? text.toList = some json) :
    Received.ofBody (Bytes.ofString text) = .message message ↔ Message.ofJson? json = some message := by
  have whole : Message.ofBody? (Bytes.ofString text) = Message.ofJson? json := by
    rw [Message.ofBody?, Bytes.toString?_ofString]
    simp only [Option.bind_eq_bind, Option.bind_some, read]
  rw [Received.ofBody, whole]
  cases Message.ofJson? json <;> simp

/-- What comes out of a frame with an object in it. A call whose id is no id is not refused: it comes
out as a notification. -/
theorem object_taken_for (word : limit < Text.wordBound 64) {text : String}
    (object : parseRaw? text.toList = some (.object members))
    (fits : (Bytes.ofString text).length ≤ limit) (behind : Bytes) :
    ∃ received, receive limit 1 (Frame.write (Bytes.ofString text) ++ behind) = some ([received], behind) ∧
      (∀ request, received = .message (.request request) ↔
        Calls members request.version request.method request.params ∧
          valuesOf members "id" = [request.id.toJson]) ∧
      (∀ notification, received = .message (.notification notification) ↔
        Calls members notification.version notification.method notification.params ∧
          ∀ id : MessageId, valuesOf members "id" ≠ [id.toJson]) ∧
      ∀ response, received = .message (.response response) ↔
        Answers members response ∧
          ∀ (version method : String) (params : Json), ¬ Calls members version method params := by
  refine ⟨_, receive_body word fits behind, ?_, ?_, ?_⟩
  · intro request
    rw [Received.ofBody_eq_message_iff object, Message.ofJson?_eq_request_iff]
  · intro notification
    rw [Received.ofBody_eq_message_iff object, Message.ofJson?_eq_notification_iff]
  · intro response
    rw [Received.ofBody_eq_message_iff object, Message.ofJson?_eq_response_iff]

def turnedCall : String :=
  "\x7b\"id\":\"7\",\"more\":[1,\x7b\x7d],\"method\":\"shutdown\",\"jsonrpc\":\"2.0\"\x7d"

theorem object_taken_for_request :
    parseRaw? turnedCall.toList =
        some (.object [("id", .string "7"), ("more", .array [.integer 1, .object []]),
          ("method", .string "shutdown"), ("jsonrpc", .string "2.0")]) ∧
      (Bytes.ofString turnedCall).length ≤ messageLimit ∧
      receive messageLimit 1 (Frame.write (Bytes.ofString turnedCall) ++ [10]) =
        some ([.message (.request (.of (.text "7") "shutdown" .null))], [10]) := by
  have object : parseRaw? turnedCall.toList =
      some (.object [("id", .string "7"), ("more", .array [.integer 1, .object []]),
        ("method", .string "shutdown"), ("jsonrpc", .string "2.0")]) := rfl
  have fits : (Bytes.ofString turnedCall).length ≤ messageLimit := by cbv
  obtain ⟨received, came, isRequest, -, -⟩ := object_taken_for (by decide) object fits [10]
  have request := (isRequest (.of (.text "7") "shutdown" .null)).mpr
    ⟨⟨rfl, rfl, none, rfl, rfl⟩, rfl⟩
  rw [request] at came
  exact ⟨object, fits, came⟩

def unnumberedCall : String := "\x7b\"jsonrpc\":\"2.0\",\"id\":null,\"method\":\"shutdown\"\x7d"

/-- A call with an id of null comes out as a notification, which is not answered. -/
theorem unnumbered_taken_for_notification :
    parseRaw? unnumberedCall.toList =
        some (.object [("jsonrpc", .string "2.0"), ("id", .null), ("method", .string "shutdown")]) ∧
      receive messageLimit 1 (Frame.write (Bytes.ofString unnumberedCall)) =
        some ([.message (.notification (.of "shutdown" .null))], []) := by
  have fits : (Bytes.ofString unnumberedCall).length ≤ messageLimit := by cbv
  have came := receive_body (by decide) fits []
  have contents : Received.ofBody (Bytes.ofString unnumberedCall) =
      .message (.notification (.of "shutdown" .null)) := rfl
  rw [List.append_nil, contents] at came
  exact ⟨rfl, came⟩

end SqlDesk.Rpc
