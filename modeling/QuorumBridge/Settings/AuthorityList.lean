import QuorumBridge.Settings
import QuorumBridge.Text.Pieces

/-!
# A list of authorities as text

Authorities are listed with commas between them. Blanks around an entry do not
count, and neither do entries that are empty without them. Every other entry is
an address: a lower-case marker and 40 digits of either case. Of several
entries that are none the first is reported.

The form of an entry is looked at before its digits. It is measured in bytes, so
that an entry with 42 characters may be too long, and an entry with fewer may
be told by its digits.

## Main definitions

* `AuthorityList.entries`: The entries that count.
* `AuthorityList.address`: The address of an entry.
* `AuthorityList.parse`: The addresses of a list.
-/

namespace QuorumBridge

namespace AuthorityList

/-- The entries that count, without the blanks around them. -/
def entries (text : List Char) : List (List Char) :=
  ((pieces ',' text).map trim).filter (!·.isEmpty)

/-- The address of an entry. Its form is looked at before its digits. -/
def address (entry : List Char) : Except Settings.Fault Address :=
  match entry with
  | '0' :: 'x' :: digits =>
    if (utf8 digits).length = 40 then
      match Hex.decode (utf8 digits) with
      | .error fault => .error (.badAddress (String.ofList entry) fault)
      | .ok bytes =>
        match Octets.ofList? 20 bytes with
        | some address => .ok address
        -- Forty digits are twenty bytes, so this is not reached.
        | none => .error (.badEntry (String.ofList entry))
    else .error (.badEntry (String.ofList entry))
  | _ => .error (.badEntry (String.ofList entry))

/-- The addresses of entries, up to the first entry that is none. -/
def addresses : List (List Char) → Except Settings.Fault (List Address)
  | [] => .ok []
  | entry :: rest =>
    match address entry with
    | .error fault => .error fault
    | .ok first => (addresses rest).map (first :: ·)

/-- The addresses of a list. -/
def parse (text : String) : Except Settings.Fault (List Address) :=
  addresses (entries text.toList)

end AuthorityList

end QuorumBridge
