import LogSql.Net.Ip

/-!
Addresses of a host and a port, such as those at which a service listens.
-/
namespace LogSql.Address

/-- The place of the last occurrence of a byte. -/
def lastIndex (b : UInt8) (t : Text) : Option Nat :=
  (t.reverse.findIdx? (· = b)).map fun i => t.length - 1 - i

/-- The host of an address of host and port; a host with colons stands in brackets. -/
def host? (address : Text) : Option Text := do
  let colon ← lastIndex (Text.byte ':') address
  match address with
  | [] => none
  | b :: _ =>
    if b = Text.byte '[' then
      let close ← address.findIdx? (· = Text.byte ']')
      if close + 1 ≠ colon ∨ (address.drop 1).elem (Text.byte '[') ∨
          (address.drop colon).elem (Text.byte ']') then none
      some ((address.take close).drop 1)
    else
      let host := address.take colon
      if host.elem (Text.byte ':') ∨ address.elem (Text.byte '[') ∨ address.elem (Text.byte ']') then none
      some host

/-- The port of an address: what follows its last colon. -/
def port (address : Text) : Text :=
  match lastIndex (Text.byte ':') address with
  | some colon => address.drop (colon + 1)
  | none => []

/-- The names of ports. -/
def portNames : List Text := ["http", "https", "ftp", "ssh", "telnet", "smtp", "domain", "pop3", "imap"]

/-- Whether a text is a port: nothing, a number of sixteen bits or a name. -/
def isPort (t : Text) : Bool :=
  t.isEmpty || (Text.someAll Text.isDecimal t && Text.digitsValue t ≤ 65535) ||
    portNames.contains (Text.asciiLower t)

/-- Whether a host is one of this machine: any, the local one, or a written address. -/
def isLocalHost (t : Text) : Bool :=
  t.isEmpty || t = ("localhost" : Text) || (Ip.read? t).isSome

/-- Whether a service can listen at an address. -/
def canListen (address : Text) : Bool :=
  match host? address with
  | some host => isLocalHost host && isPort (port address)
  | none => false

/-- Why a service does not listen at an address. -/
def refusal (address : Text) : Text :=
  .concat ["listen tcp: address ", address, " is not usable"]

/-- Listens at an address: what goes wrong, if anything does. -/
def listen (address : Text) : Except Text Unit :=
  if canListen address then .ok () else .error (refusal address)

end LogSql.Address
