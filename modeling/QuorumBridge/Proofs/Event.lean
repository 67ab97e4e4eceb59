import QuorumBridge.Event
import QuorumBridge.Proofs.Json.Values

/-!
# Events are told apart by their texts

An event can be read again from the text it is written as, so the text of no
other event is the same.

Four of the events have the same fields. Nothing but the tag keeps them apart,
and between the tag and the end of the text stands an amount, which may be of
any length. Comparing texts from the front would have to find where each amount
ends. It is easier to say how an event is read: by its tag first, which tells
what fields there are (`Event.readers`), and then by these fields. That the
texts are different then follows without any two of them being compared.

Every member of a written event is a text of which nothing is escaped. So the
written form can be given as it stands, member by member (`Json.memberText`).

## Main definitions

* `Event.forms`: The fields of an event, as they are written.
* `Event.readers`, `Event.ofJson?`: How an event is read.
* `Event.Determined`: What the text of an event tells.

## Theorems

* `Event.tag_eq_name`: The tag of an event is its name.
* `Event.toList_json`: The text that an event is written as.
* `Event.ofJson?_toJson`: An event is read as it was written.
* `Event.told_apart`: The text of an event is that of no other.
-/

namespace QuorumBridge

namespace Event

variable {e : Event}

theorem tag_eq_name (e : Event) : e.tag = e.name := by
  cases e <;> rfl

/-! ## How an event is written -/

/-- The fields that four of the events share, as they are written. -/
def transferForms (recipient : Address) (value : Amount) (transaction : Hash) :
    List (String × String) :=
  [("recipient", recipient.hex), ("value", Amount.hex value),
    ("transaction_hash", transaction.hex)]

/-- The fields of an event, as they are written. -/
def forms : Event → List (String × String)
  | .depositRequested recipient value transaction => transferForms recipient value transaction
  | .withdraw recipient value transaction => transferForms recipient value transaction
  | .depositConfirmation recipient value transaction =>
    transferForms recipient value transaction
  | .deposit recipient value transaction => transferForms recipient value transaction
  | .withdrawRequested recipient value homeGasPrice transaction =>
    [("recipient", recipient.hex), ("value", Amount.hex value),
      ("home_gas_price", Amount.hex homeGasPrice), ("transaction_hash", transaction.hex)]
  | .withdrawSignatureSubmitted message => [("message_hash", message.hex)]
  | .collectedSignatures message relayer =>
    [("message_hash", message.hex), ("authority_responsible_for_relay", relayer.hex)]

theorem toJson_eq_ofTexts (e : Event) : e.toJson = Json.ofTexts (("event", e.tag) :: e.forms) := by
  cases e <;> rfl

/-- The names of members and the tags of events, of which nothing is escaped. -/
def words : List String :=
  ["event", "recipient", "value", "home_gas_price", "transaction_hash", "message_hash",
    "authority_responsible_for_relay", "DepositRequested", "Withdraw", "DepositConfirmation",
    "Deposit", "WithdrawRequested", "WithdrawSignatureSubmitted", "CollectedSignatures"]

/-- Nothing of an event is escaped. -/
theorem unescaped_of_mem {member : String × String} (h : member ∈ ("event", e.tag) :: e.forms) :
    Json.Unescaped member.1 ∧ Json.Unescaped member.2 := by
  have hwords : ∀ word ∈ words, Json.Unescaped word :=
    fun _ => Json.unescaped_of_all (by decide +kernel)
  simp only [words, List.forall_mem_cons] at hwords
  have hall : ∀ member ∈ ("event", e.tag) :: e.forms,
      Json.Unescaped member.1 ∧ Json.Unescaped member.2 := by
    -- An event has a few members, and of each both the name and the text are looked at.
    cases e <;>
      simp only [tag, forms, transferForms, List.forall_mem_cons, List.not_mem_nil, false_implies,
        implies_true, Octets.unescaped_hex, Amount.unescaped_hex, hwords, and_self]
  exact hall member h

/-- The text that an event is written as. -/
theorem toList_json (e : Event) :
    e.json.toList =
      '\x7b' :: ([','].intercalate ((("event", e.tag) :: e.forms).map Json.memberText) ++
        ['\x7d']) := by
  rw [json, Json.render, String.toList_ofList, toJson_eq_ofTexts,
    Json.chars_ofTexts fun _ => unescaped_of_mem]

/-! ## How an event is read -/

/-- A transfer is read from the fields that all transfers share. -/
def readTransfer (make : Address → Amount → Hash → Event) (json : Json) : Option Event :=
  match json.fields? ["recipient", "value", "transaction_hash"] with
  | some [some recipient, some value, some transaction] => do
    let recipient ← Octets.ofJson? 20 recipient
    let value ← Amount.ofJson? value
    let transaction ← Octets.ofJson? 32 transaction
    return make recipient value transaction
  | _ => none

/-- Reads the fields of a request for a withdrawal. -/
def readWithdrawRequested (json : Json) : Option Event :=
  match json.fields? ["recipient", "value", "home_gas_price", "transaction_hash"] with
  | some [some recipient, some value, some homeGasPrice, some transaction] => do
    let recipient ← Octets.ofJson? 20 recipient
    let value ← Amount.ofJson? value
    let homeGasPrice ← Amount.ofJson? homeGasPrice
    let transaction ← Octets.ofJson? 32 transaction
    return .withdrawRequested recipient value homeGasPrice transaction
  | _ => none

/-- Reads the field of a signature that was submitted. -/
def readSignatureSubmitted (json : Json) : Option Event :=
  match json.fields? ["message_hash"] with
  | some [some message] => (Octets.ofJson? 32 message).map .withdrawSignatureSubmitted
  | _ => none

/-- Reads the fields of a bundle that was closed. -/
def readCollectedSignatures (json : Json) : Option Event :=
  match json.fields? ["message_hash", "authority_responsible_for_relay"] with
  | some [some message, some relayer] => do
    let message ← Octets.ofJson? 32 message
    let relayer ← Octets.ofJson? 20 relayer
    return .collectedSignatures message relayer
  | _ => none

/-- How an event is read that has this tag. -/
def readers : List (String × (Json → Option Event)) :=
  [("DepositRequested", readTransfer .depositRequested), ("Withdraw", readTransfer .withdraw),
    ("DepositConfirmation", readTransfer .depositConfirmation), ("Deposit", readTransfer .deposit),
    ("WithdrawRequested", readWithdrawRequested),
    ("WithdrawSignatureSubmitted", readSignatureSubmitted),
    ("CollectedSignatures", readCollectedSignatures)]

/-- The event that a JSON value tells of: the tag says how its fields are read. -/
def ofJson? (json : Json) : Option Event :=
  match json.fields? ["event"] with
  | some [some tag] => (tag.text?.bind fun tag => readers.lookup tag).bind fun read => read json
  | _ => none

/-- The event that a JSON text stands for. -/
def ofJsonText? (text : String) : Option Event :=
  (Json.ofText? .free text).bind ofJson?

theorem readTransfer_eq {make : Address → Amount → Hash → Event} {recipient : Address}
    {value : Amount} {transaction : Hash} (tag : String) :
    readTransfer make (Json.record
      (("event", .text tag) :: transferFields recipient value transaction)) =
      some (make recipient value transaction) := by
  have hfields : (Json.record (("event", .text tag) ::
      transferFields recipient value transaction)).fields?
        ["recipient", "value", "transaction_hash"] =
      some [some recipient.toJson, some (Amount.toJson value), some transaction.toJson] := rfl
  rw [readTransfer, hfields]
  simp only [Octets.ofJson?_toJson, Amount.ofJson?_toJson, Option.bind_eq_bind, Option.bind_some,
    Option.pure_def]

theorem readWithdrawRequested_toJson (recipient : Address) (value homeGasPrice : Amount)
    (transaction : Hash) :
    readWithdrawRequested (toJson (.withdrawRequested recipient value homeGasPrice transaction)) =
      some (.withdrawRequested recipient value homeGasPrice transaction) := by
  have hfields : (toJson (.withdrawRequested recipient value homeGasPrice transaction)).fields?
        ["recipient", "value", "home_gas_price", "transaction_hash"] =
      some [some recipient.toJson, some (Amount.toJson value), some (Amount.toJson homeGasPrice),
        some transaction.toJson] := rfl
  rw [readWithdrawRequested, hfields]
  simp only [Octets.ofJson?_toJson, Amount.ofJson?_toJson, Option.bind_eq_bind, Option.bind_some,
    Option.pure_def]

theorem readSignatureSubmitted_toJson (message : Hash) :
    readSignatureSubmitted (toJson (.withdrawSignatureSubmitted message)) =
      some (.withdrawSignatureSubmitted message) := by
  have hfields : (toJson (.withdrawSignatureSubmitted message)).fields? ["message_hash"] =
      some [some message.toJson] := rfl
  rw [readSignatureSubmitted, hfields]
  simp only [Octets.ofJson?_toJson, Option.map_some]

theorem readCollectedSignatures_toJson (message : Hash) (relayer : Address) :
    readCollectedSignatures (toJson (.collectedSignatures message relayer)) =
      some (.collectedSignatures message relayer) := by
  have hfields : (toJson (.collectedSignatures message relayer)).fields?
        ["message_hash", "authority_responsible_for_relay"] =
      some [some message.toJson, some relayer.toJson] := rfl
  rw [readCollectedSignatures, hfields]
  simp only [Octets.ofJson?_toJson, Option.bind_eq_bind, Option.bind_some, Option.pure_def]

/-- The tag tells how the fields are read. -/
theorem ofJson?_of_lookup {read : Json → Option Event} (h : readers.lookup e.tag = some read) :
    ofJson? e.toJson = read e.toJson := by
  have hfields : e.toJson.fields? ["event"] = some [some (.text e.tag)] := by
    cases e <;> rfl
  have htag : (Json.text e.tag).text? = some e.tag := rfl
  rw [ofJson?, hfields]
  simp only [htag, Option.bind_some, h]

/-- An event is read as it was written. -/
theorem ofJson?_toJson (e : Event) : ofJson? e.toJson = some e := by
  -- The name that an event gives decides how the rest is read. Four events have the same three
  -- members under different names.
  cases e with
  | depositRequested => exact (ofJson?_of_lookup rfl).trans (readTransfer_eq _)
  | withdraw => exact (ofJson?_of_lookup rfl).trans (readTransfer_eq _)
  | depositConfirmation => exact (ofJson?_of_lookup rfl).trans (readTransfer_eq _)
  | deposit => exact (ofJson?_of_lookup rfl).trans (readTransfer_eq _)
  | withdrawRequested =>
    exact (ofJson?_of_lookup rfl).trans (readWithdrawRequested_toJson _ _ _ _)
  | withdrawSignatureSubmitted =>
    exact (ofJson?_of_lookup rfl).trans (readSignatureSubmitted_toJson _)
  | collectedSignatures =>
    exact (ofJson?_of_lookup rfl).trans (readCollectedSignatures_toJson _ _)

theorem ofText?_json (shape : Json.Shape) (e : Event) :
    Json.ofText? shape e.json = some e.toJson :=
  Json.ofText?_render (by rw [toJson_eq_ofTexts]; exact Json.legible_ofTexts shape _)

theorem ofJsonText?_json (e : Event) : ofJsonText? e.json = some e := by
  rw [ofJsonText?, ofText?_json, Option.bind_some, ofJson?_toJson]

/-! ## What the text of an event tells -/

/-- The text of an event is an object that begins with the name of the event, and
    it is the text of no other event. -/
structure Determined : Prop where
  /-- The text is an object of texts, and its first member is the name. -/
  written : ∀ e : Event, e.json.toList =
    '\x7b' :: ([','].intercalate ((("event", e.name) :: e.forms).map Json.memberText) ++ ['\x7d'])
  /-- It is read as one. -/
  tagged : ∀ e : Event, Json.ofText? .free e.json =
    some (Json.record (("event", .text e.name) :: e.fields))
  /-- No other member goes by the name of the first. -/
  once : ∀ e : Event, "event" ∉ e.fields.map Prod.fst
  /-- The event is read from it. -/
  read : ∀ e : Event, ofJsonText? e.json = some e
  distinct : ∀ x y : Event, x.json = y.json → x = y

/-- The text of an event is that of no other. -/
theorem told_apart : Determined where
  written e := by rw [toList_json, tag_eq_name]
  tagged e := by rw [ofText?_json, toJson, tag_eq_name]
  once e := by
    cases e <;> simp [fields, transferFields]
  read := ofJsonText?_json
  distinct x y h := by
    -- Both events are read from the one text.
    have hread := ofJsonText?_json x
    rw [h, ofJsonText?_json, Option.some.injEq] at hread
    exact hread.symm

end Event

end QuorumBridge
