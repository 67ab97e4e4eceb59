import QuorumBridge.Instruction
import QuorumBridge.Signature.Recovery
import QuorumBridge.SignerSet
import QuorumBridge.Table

/-!
# Bundles of signatures

Authorities sign the message of every withdrawal that is asked for on the
foreign ledger. Their signatures are collected by the name of the message. The
signature that reaches the threshold closes the bundle, which then holds the
message, its signatures and their signers in the order they came, and the
account that brought the last one.

Who signed is always computed. The account that submits a signature also says
whose it is, and is turned down if that is not so. The first submission fixes
the bytes of the message, and every later one must repeat them.

## Main definitions

* `Registry.signer`: The authority that signed a message.
* `Bundle`: A message with as many signatures as the threshold asks for.
* `Bundles`: The signatures collected so far, by message.
* `Bundles.submit`: One more signature.
* `Bundles.hasSigned`, `Bundles.signature`, `Bundles.message?`,
  `Bundles.collected?`, `Bundles.count`: What is known about a message.
-/

namespace QuorumBridge

/-- The authority that signed a message, and its position, or why there is
    none. -/
def Registry.signer (registry : Registry) (signature : Signature) (message : List UInt8) :
    Except Refusal (Nat × Address) :=
  match signature.signer message with
  | .error fault => .error (.invalidSignature fault)
  | .ok signer =>
    match registry.position? signer with
    | none => .error (.signerNotAuthority signer)
    | some index => .ok (index, signer)

/-- A message with enough signatures to be executed. -/
structure Bundle where
  /-- The name of the message. -/
  messageHash : Hash
  message : List UInt8
  /-- Who signed, in the order of the signatures. -/
  signers : List Address
  signatures : List Signature
  /-- The account that submitted the last signature. -/
  relayer : Address
deriving DecidableEq

/-- A bundle in JSON. The bytes of the message are written like those of a hash. -/
def Bundle.toJson (bundle : Bundle) : Json :=
  .record [("message_hash", bundle.messageHash.toJson),
    ("message", .text (String.ofList ('0' :: 'x' :: Hex.encode bundle.message))),
    ("signers", .array (bundle.signers.map Octets.toJson)),
    ("signatures", .array (bundle.signatures.map Signature.toJson)),
    ("relayer", bundle.relayer.toJson)]

/-- A message that still needs signatures. -/
structure Pending where
  message : List UInt8
  signers : SignerSet
  signatures : List Signature
deriving DecidableEq

/-- How far the collection for a message has come. -/
inductive Collection
  | collecting (pending : Pending)
  | collected (bundle : Bundle)
deriving DecidableEq

namespace Collection

/-- The message that signatures are collected for. -/
def message : Collection → List UInt8
  | .collecting pending => pending.message
  | .collected bundle => bundle.message

/-- The signatures collected so far. -/
def signatures : Collection → List Signature
  | .collecting pending => pending.signatures
  | .collected bundle => bundle.signatures

/-- Whether an authority, given by its position and its address, has signed. -/
def hasSigner (collection : Collection) (index : Nat) (authority : Address) : Bool :=
  match collection with
  | .collecting pending => pending.signers.contains index
  | .collected bundle => bundle.signers.contains authority

end Collection

/-- What an accepted signature has led to. -/
inductive SubmitOutcome
  /-- The message still needs more signatures. -/
  | pending (messageHash : Hash) (signatures required : Nat)
  /-- This signature closed the bundle. -/
  | collected (bundle : Bundle)
deriving DecidableEq

/-- The signatures collected so far, by the name of the message. -/
structure Bundles where
  collections : Table Hash Collection

namespace Bundles

/-- The book in which nothing was collected yet. -/
def empty : Bundles :=
  ⟨Table.empty⟩

/-- What is pending for a message before the signature of an authority is
    added, or why it is not added. -/
def pending (book : Bundles) (registry : Registry) (message : List UInt8) (index : Nat)
    (authority : Address) : Except Refusal Pending :=
  match book.collections.get? (messageHash message) with
  | none => .ok ⟨message, registry.signers, []⟩
  | some collection =>
    -- Two messages of one name would be a collision of hashes.
    if collection.message ≠ message then .error (.messageMismatch (messageHash message))
    -- Who has signed hears so even after the bundle is closed.
    else if collection.hasSigner index authority then .error (.duplicateSignature authority)
    else
      match collection with
      | .collected _ => .error (.alreadyCollected (messageHash message))
      | .collecting pending => .ok pending

/-- What is pending for a message with one more signature, or why it is not
    accepted. -/
def accept (book : Bundles) (registry : Registry) (signature : Signature) (message : List UInt8)
    (claimed : Address) : Except Refusal Pending :=
  match Instruction.checkLength message with
  | .error refusal => .error refusal
  | .ok () =>
    match registry.signer signature message with
    | .error refusal => .error refusal
    | .ok (index, signer) =>
      -- The claim is compared with the signer that was computed, and settles nothing else.
      if signer ≠ claimed then .error (.signerMismatch claimed signer)
      else
        match book.pending registry message index signer with
        | .error refusal => .error refusal
        | .ok pending =>
          .ok { pending with
            signers := (pending.signers.insert index).2
            signatures := pending.signatures ++ [signature] }

/-- Submits a signature over a message as that of `claimed`. `relayer` is the
    account that submits it. -/
def submit (book : Bundles) (registry : Registry) (signature : Signature) (message : List UInt8)
    (claimed relayer : Address) : Except Refusal SubmitOutcome × Bundles :=
  match book.accept registry signature message claimed with
  | .error refusal => (.error refusal, book)
  | .ok pending =>
    let hash := messageHash message
    let count := pending.signatures.length
    if count < registry.threshold then
      (.ok (.pending hash count registry.threshold),
        ⟨book.collections.put hash (.collecting pending)⟩)
    else
      let bundle : Bundle := {
        messageHash := hash
        -- From the collection: the bytes that the first submission fixed.
        message := pending.message
        signers := pending.signers.addresses registry
        signatures := pending.signatures
        relayer }
      (.ok (.collected bundle), ⟨book.collections.put hash (.collected bundle)⟩)

/-- Whether an account is an authority that has signed a message. A message of
    a wrong length is turned down whoever asks. -/
def hasSigned (book : Bundles) (registry : Registry) (account : Address) (message : List UInt8) :
    Except Refusal Bool :=
  match Instruction.checkLength message with
  | .error refusal => .error refusal
  | .ok () =>
    match registry.position? account, book.collections.get? (messageHash message) with
    | some index, some collection =>
      -- A message of the same name with other bytes was signed by nobody.
      .ok (decide (collection.message = message) && collection.hasSigner index account)
    | _, _ => .ok false

/-- The signature at a place in the order of submission. -/
def signature (book : Bundles) (hash : Hash) (index : Nat) : Except Refusal Signature :=
  match (book.collections.get? hash).bind (·.signatures[index]?) with
  | some signature => .ok signature
  | none => .error (.signatureNotFound hash index)

/-- The message of this name, if it was signed. -/
def message? (book : Bundles) (hash : Hash) : Option (List UInt8) :=
  (book.collections.get? hash).map Collection.message

/-- The bundle of a message, if it is closed. -/
def collected? (book : Bundles) (hash : Hash) : Option Bundle :=
  match book.collections.get? hash with
  | some (.collected bundle) => some bundle
  | _ => none

/-- How many signatures there are for a message. It does not matter whether the
    bundle is closed. -/
def count (book : Bundles) (hash : Hash) : Nat :=
  match book.collections.get? hash with
  | some collection => collection.signatures.length
  | none => 0

end Bundles

end QuorumBridge
