import Mathlib
import SqlDesk.Proofs.Json.Collect
import SqlDesk.Proofs.Json.ReadBack
import SqlDesk.Proofs.Rpc.Kinds

/-!
Messages on their way over the wire. Calls come out as they were sent. So do responses, but for a
result of null: it is read as no result, and is no longer there when the response is sent again.
-/

set_option autoImplicit false

namespace SqlDesk

namespace Json

/-- Values that a message can carry: no object repeats a name, and one level of nesting is left for the
message itself. -/
structure Carried (json : Json) : Prop where
  exact : json.isExact (nestingLimit - 1) = true
  distinct : json.isDistinct = true

theorem render_injective {first second : Json} (exact : first.isExact nestingLimit = true)
    (other : second.isExact nestingLimit = true) (same : first.render = second.render) :
    first = second := by
  have read := parseRaw?_chars exact
  rw [String.ofList_injective same, parseRaw?_chars other] at read
  exact (Option.some.inj read).symm

end Json

namespace Rpc

open SqlDesk.Json

variable {limit : Nat}

theorem Message.ofBody?_body {message : Message} (exact : message.toJson.isExact nestingLimit = true) :
    Message.ofBody? message.body = Message.ofJson? message.toJson := by
  rw [Message.ofBody?, Message.body, Bytes.toString?_ofString]
  simp only [Option.bind_eq_bind, Option.bind_some]
  rw [Json.render, String.toList_ofList, parseRaw?_chars exact]
  rfl

theorem Message.toJson_of_frame {message other : Message}
    (exact : message.toJson.isExact nestingLimit = true)
    (otherExact : other.toJson.isExact nestingLimit = true) (same : message.frame = other.frame) :
    message.toJson = other.toJson := by
  have bodies : message.body = other.body := write_injective same
  have text := congrArg Bytes.toString? bodies
  rw [Message.body, Message.body, Bytes.toString?_ofString, Bytes.toString?_ofString] at text
  exact render_injective exact otherExact (Option.some.inj text)

theorem Received.ofBody_body {message heard : Message}
    (exact : message.toJson.isExact nestingLimit = true)
    (read : Message.ofJson? message.toJson = some heard) :
    Received.ofBody message.body = .message heard := by
  rw [Received.ofBody, Message.ofBody?_body exact, read]

theorem isExact_word (value : Int64) (depth : Nat) : (Json.integer value.toInt).isExact depth = true :=
  isExact_integer value.le_toInt value.toInt_lt depth

theorem MessageId.isExact_toJson (id : MessageId) (depth : Nat) : id.toJson.isExact depth = true := by
  cases id with
  | number value => exact isExact_word value depth
  | text value => simp [MessageId.toJson, isExact]

theorem ResponseError.isExact_toJson (error : ResponseError) :
    error.toJson.isExact (nestingLimit - 1) = true := by
  show (isExact _ (.integer error.code.toInt) && (isExact _ (.string error.message) && true)) = true
  rw [isExact_word, isExact]
  rfl

theorem isExact_object {members : List (String × Json)}
    (each : ∀ member ∈ members, member.2.isExact (nestingLimit - 1) = true) :
    (Json.object members).isExact nestingLimit = true := by
  show (members.all fun member => isExact (nestingLimit - 1) member.2) = true
  exact List.all_eq_true.mpr each

/-! ## Calls -/

section Calls

variable (id : MessageId) (method : String) {params : Json}

theorem Message.isExact_request (carried : params.Carried) :
    (Message.request (.of id method params)).toJson.isExact nestingLimit = true := by
  apply isExact_object
  simp [Request.of, isExact, id.isExact_toJson, carried.exact]

theorem Message.isExact_notification (carried : params.Carried) :
    (Message.notification (.of method params)).toJson.isExact nestingLimit = true := by
  apply isExact_object
  simp [Notification.of, isExact, carried.exact]

theorem Message.ofJson?_request (carried : params.Carried) :
    Message.ofJson? (Message.request (.of id method params)).toJson =
      some (.request (.of id method params)) := by
  have settled : settled (some params) = params := settle_of_distinct carried.distinct
  apply Message.ofJson?_eq_request_iff.mpr
  exact ⟨⟨rfl, rfl, some params, rfl, settled⟩, rfl⟩

theorem Message.ofJson?_notification (carried : params.Carried) :
    Message.ofJson? (Message.notification (.of method params)).toJson =
      some (.notification (.of method params)) := by
  have settled : settled (some params) = params := settle_of_distinct carried.distinct
  apply Message.ofJson?_eq_notification_iff.mpr
  refine ⟨⟨rfl, rfl, some params, rfl, settled⟩, ?_⟩
  -- There is no id to be read.
  intro id numbered
  cases numbered

end Calls

/-- Calls as they are made, with parameters that can be carried. -/
inductive Message.IsCall : Message → Prop where
  | request (id : MessageId) (method : String) {params : Json} (carried : params.Carried) :
      IsCall (.request (.of id method params))
  | notification (method : String) {params : Json} (carried : params.Carried) :
      IsCall (.notification (.of method params))

theorem Received.ofBody_call {message : Message} (call : message.IsCall) :
    Received.ofBody message.body = .message message := by
  cases call with
  | request id method carried =>
    exact Received.ofBody_body (Message.isExact_request id method carried)
      (Message.ofJson?_request id method carried)
  | notification method carried =>
    exact Received.ofBody_body (Message.isExact_notification method carried)
      (Message.ofJson?_notification method carried)

/-- Calls that are sent one behind the other come out as they were sent, and what stands behind them
is left as it is. -/
theorem calls_come_back (word : limit < Text.wordBound 64) {messages : List Message}
    (calls : ∀ message ∈ messages, message.IsCall)
    (fit : ∀ message ∈ messages, message.body.length ≤ limit) (behind : Bytes) :
    receive limit messages.length (messages.flatMap Message.frame ++ behind) =
        some (messages.map Received.message, behind) ∧
      drain limit (messages.flatMap Message.frame ++ behind) =
        (drain limit behind).after (messages.map Received.message) := by
  have bodiesFit : ∀ body ∈ messages.map Message.body, body.length ≤ limit := by
    intro body member
    obtain ⟨message, among, rfl⟩ := List.mem_map.mp member
    exact fit message among
  have frames : messages.flatMap Message.frame = (messages.map Message.body).flatMap Frame.write := by
    rw [List.flatMap_map]
    rfl
  have contents : (messages.map Message.body).map Received.ofBody = messages.map Received.message := by
    rw [List.map_map]
    exact List.map_congr_left fun message among => Received.ofBody_call (calls message among)
  have came := receive_bodies word bodiesFit behind
  rw [List.length_map, contents, ← frames] at came
  exact ⟨came, drain_of_receive came⟩

def mixedCalls : List Message :=
  [.request (.of (.text "007") "a\"\\\n" (.array [.integer (-9223372036854775808), .null,
      .integer 18446744073709551615, .object [("z", .bool true), ("a", .string "ü\x00")]])),
    .notification (.of "" .null),
    .request (.of (.number (-5)) "ß" (.object [("b", .array [.array []]), ("a", .object [])]))]

theorem calls_come_back_mixed :
    (∀ message ∈ mixedCalls, message.IsCall) ∧
      (∀ message ∈ mixedCalls, message.body.length ≤ messageLimit) ∧
      receive messageLimit 3 (mixedCalls.flatMap Message.frame ++ Bytes.ofString "Content-") =
        some (mixedCalls.map Received.message, Bytes.ofString "Content-") ∧
      drain messageLimit (mixedCalls.flatMap Message.frame ++ Bytes.ofString "Content-") =
        ⟨mixedCalls.map Received.message, Bytes.ofString "Content-", none⟩ := by
  have calls : ∀ message ∈ mixedCalls, message.IsCall := by
    intro message member
    simp only [mixedCalls, List.mem_cons, List.not_mem_nil, or_false] at member
    rcases member with rfl | rfl | rfl
    · exact .request _ _ ⟨by decide, by decide⟩
    · exact .notification _ ⟨by decide, by decide⟩
    · exact .request _ _ ⟨by decide, by decide⟩
  have fit : ∀ message ∈ mixedCalls, message.body.length ≤ messageLimit := by
    intro message member
    simp only [mixedCalls, List.mem_cons, List.not_mem_nil, or_false] at member
    rcases member with rfl | rfl | rfl
    · cbv
    · cbv
    · cbv
  have back := calls_come_back (by decide) calls fit (Bytes.ofString "Content-")
  have rest : drain messageLimit (Bytes.ofString "Content-") =
      ⟨[], Bytes.ofString "Content-", none⟩ := drain_of_more rfl
  rw [rest] at back
  exact ⟨calls, fit, back⟩

/-! ## Responses -/

/-- A response as it is read: a result of null is none. -/
def Response.heard (response : Response) : Response :=
  { response with
    result := match response.result with
      | some .null => none
      | result => result }

section Responses

variable {response : Response}

theorem Response.heard_eq_self_iff : response.heard = response ↔ response.result ≠ some .null := by
  obtain ⟨version, id, result, error⟩ := response
  rcases result with _ | result
  · simp [Response.heard]
  · cases result <;> simp [Response.heard]

theorem Message.isExact_response
    (exact : ∀ json ∈ response.result, json.isExact (nestingLimit - 1) = true) :
    (Message.response response).toJson.isExact nestingLimit = true := by
  apply isExact_object
  intro member among
  -- A member that is written is one of the four that has a value.
  obtain ⟨⟨name, value⟩, listed, present⟩ := List.mem_filterMap.mp among
  obtain ⟨json, rfl, rfl⟩ := Option.map_eq_some_iff.mp present
  simp only [List.mem_cons, Prod.mk.injEq, List.not_mem_nil, or_false] at listed
  rcases listed with ⟨-, version⟩ | ⟨-, id⟩ | ⟨-, result⟩ | ⟨-, failure⟩
  · obtain rfl := Option.some.inj version
    simp [isExact]
  · obtain rfl := Option.some.inj id
    exact response.id.isExact_toJson _
  · exact exact json result.symm
  · obtain ⟨error, -, rfl⟩ := Option.map_eq_some_iff.mp failure.symm
    exact error.isExact_toJson

structure Tells (members : List (String × Json)) (response : Response) : Prop where
  version : valuesOf members "jsonrpc" = [.string response.version]
  id : valuesOf members "id" = [response.id.toJson]
  result : valuesOf members "result" = response.result.toList
  error : valuesOf members "error" = (response.error.map ResponseError.toJson).toList
  methodless : valuesOf members "method" = []

theorem Message.toJson_response (response : Response) :
    ∃ members, (Message.response response).toJson = .object members ∧ Tells members response := by
  obtain ⟨version, id, _ | result, _ | error⟩ := response
  · exact ⟨_, rfl, rfl, rfl, rfl, rfl, rfl⟩
  · exact ⟨_, rfl, rfl, rfl, rfl, rfl, rfl⟩
  · exact ⟨_, rfl, rfl, rfl, rfl, rfl, rfl⟩
  · exact ⟨_, rfl, rfl, rfl, rfl, rfl, rfl⟩

theorem Response.result_heard (distinct : ∀ json ∈ response.result, json.isDistinct = true) :
    optional? anyJson? response.result = some response.heard.result := by
  obtain ⟨version, id, result, error⟩ := response
  rcases result with _ | result
  · rfl
  · have whole := settle_of_distinct (distinct result rfl)
    -- Null is told apart before the reader of results is asked.
    cases result with
    | null => rfl
    | _ => exact congrArg (some ∘ some) whole

theorem Tells.answers {members : List (String × Json)} (tells : Tells members response)
    (distinct : ∀ json ∈ response.result, json.isDistinct = true) :
    Answers members response.heard where
  version := tells.version
  id := tells.id
  result := ⟨response.result, tells.result, Response.result_heard distinct⟩
  error := by
    refine ⟨_, tells.error, ?_⟩
    rw [Response.heard]
    cases response.error with
    | none => rfl
    | some error => exact congrArg (Option.map some) error.ofJson?_toJson

theorem Message.ofJson?_response (distinct : ∀ json ∈ response.result, json.isDistinct = true) :
    Message.ofJson? (Message.response response).toJson = some (.response response.heard) := by
  obtain ⟨members, same, tells⟩ := Message.toJson_response response
  rw [same]
  apply Message.ofJson?_eq_response_iff.mpr
  refine ⟨tells.answers distinct, ?_⟩
  -- A response names no method, so it is not taken for a call.
  intro version method params calls
  have given := calls.method
  rw [tells.methodless] at given
  cases given

theorem Message.result_of_toJson {other : Response}
    (same : (Message.response response).toJson = (Message.response other).toJson) :
    response.result = other.result := by
  obtain ⟨members, own, tells⟩ := Message.toJson_response response
  obtain ⟨others, theirs, tell⟩ := Message.toJson_response other
  rw [own, theirs] at same
  obtain rfl := Json.object.inj same
  have values := tells.result.symm.trans tell.result
  have heads := congrArg List.head? values
  rwa [Option.head?_toList, Option.head?_toList] at heads

theorem Received.ofBody_response (carried : ∀ json ∈ response.result, json.Carried) :
    Received.ofBody (Message.response response).body = .message (.response response.heard) := by
  apply Received.ofBody_body
  · exact Message.isExact_response fun json given => (carried json given).exact
  · exact Message.ofJson?_response fun json given => (carried json given).distinct

theorem Message.frame_heard_iff (carried : ∀ json ∈ response.result, json.Carried) :
    (Message.response response.heard).frame = (Message.response response).frame ↔
      response.result ≠ some .null := by
  constructor
  · intro same lost
    -- What is heard has no result, so its text differs.
    have none : response.heard.result = none := by rw [Response.heard, lost]
    have exact := Message.isExact_response fun json given => (carried json given).exact
    have heardExact : (Message.response response.heard).toJson.isExact nestingLimit = true := by
      apply Message.isExact_response
      rw [none]
      intro json given
      cases given
    have results := Message.result_of_toJson (Message.toJson_of_frame heardExact exact same)
    rw [none, lost] at results
    cases results
  · intro kept
    rw [Response.heard_eq_self_iff.mpr kept]

/-- A response comes out with its result, if that is not null. So it comes out as it was sent, and goes
on as it came, exactly if it does not say that its result is null. -/
theorem responses_lose_null (word : limit < Text.wordBound 64) {response : Response}
    (carried : ∀ json ∈ response.result, json.Carried)
    (fits : (Message.response response).body.length ≤ limit) (behind : Bytes) :
    receive limit 1 ((Message.response response).frame ++ behind) =
        some ([.message (.response response.heard)], behind) ∧
      (response.heard = response ↔ response.result ≠ some .null) ∧
      ((Message.response response.heard).frame = (Message.response response).frame ↔
        response.result ≠ some .null) := by
  refine ⟨?_, Response.heard_eq_self_iff, Message.frame_heard_iff carried⟩
  rw [Message.frame, receive_body word fits behind, Received.ofBody_response carried]

theorem responses_lose_null_nested :
    let response := Response.success (.text "3") (.array [.null, .object [("rows", .integer 2)]])
    (∀ json ∈ response.result, json.Carried) ∧
      (Message.response response).body.length ≤ messageLimit ∧
      receive messageLimit 1 ((Message.response response).frame ++ [13]) =
        some ([.message (.response response)], [13]) := by
  intro response
  have carried : ∀ json ∈ response.result, json.Carried := by
    rintro json ⟨⟩
    exact ⟨by decide, by decide⟩
  have fits : (Message.response response).body.length ≤ messageLimit := by cbv
  obtain ⟨came, -, -⟩ := responses_lose_null (by decide) carried fits [13]
  exact ⟨carried, fits, came⟩

/-- The answer to a shutdown comes back without its result, and goes on as other bytes. -/
theorem shutdown_result_is_lost :
    let response := Response.success (.number 1) .null
    let heard : Response := ⟨protocolVersion, .number 1, none, none⟩
    receive messageLimit 1 (Message.response response).frame = some ([.message (.response heard)], []) ∧
      heard ≠ response ∧ (Message.response heard).frame ≠ (Message.response response).frame := by
  intro response heard
  have carried : ∀ json ∈ response.result, json.Carried := by
    rintro json ⟨⟩
    exact ⟨by decide, by decide⟩
  have fits : (Message.response response).body.length ≤ messageLimit := by cbv
  have came := receive_body (by decide) fits []
  rw [List.append_nil, Received.ofBody_response carried] at came
  refine ⟨came, ?_, ?_⟩
  · intro same
    cases congrArg Response.result same
  · intro same
    exact (Message.frame_heard_iff carried).mp same rfl

end Responses

end Rpc

end SqlDesk
