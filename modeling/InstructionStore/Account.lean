import InstructionStore.InvalidInput
import InstructionStore.OpaqueId
import InstructionStore.Unicode.Classes
import InstructionStore.Web.Address

/-!
# Accounts

An account is opened with a name, an email address and what an identity
provider says about its owner. `Signup.check` decides whether it may be
opened: the name is an identifier that is not reserved, the email address has
the shape of one, the provider is named, and the addresses the provider gives
are those of web pages. The first field in this order that fails is reported.

A `Signature` names the author of a change to an instruction. An account signs
with its name, which stands for its email address as well.
-/

namespace InstructionStore

/-- **What an identity provider says** about the owner of an account. -/
structure Provider where
  /-- The provider. -/
  provider : String
  /-- The owner's identifier with the provider. -/
  userId : String
  /-- The owner's page with the provider. -/
  url : Option String
  /-- The owner's picture with the provider. -/
  image : Option String
  /-- The owner's name with the provider. -/
  displayName : Option String
deriving DecidableEq

/-- Whether a text holds nothing but blanks. -/
def isBlank (text : String) : Bool := text.toList.all Unicode.isSpace

namespace Provider

/-- Checks an address that may be absent. -/
def checkAddress (field : String) : Option String → Except InvalidInput Unit
  | none => .ok ()
  | some address =>
    if Web.isWebAddress address then .ok () else .error ⟨field, address, .url⟩

/-- **Checks what a provider says**: it is named, and its addresses are those
of web pages. -/
def check (p : Provider) : Except InvalidInput Unit := do
  if isBlank p.provider then throw ⟨"provider", p.provider, .empty⟩
  checkAddress "provider_url" p.url
  checkAddress "provider_img" p.image

end Provider

/-- **The shape of an email address**: one `@` with something before it, and
after it a domain that has a point inside; no blanks and no control characters
anywhere. -/
def isEmail (text : String) : Bool :=
  let chars := text.toList
  let mailbox := chars.takeWhile (· != '@')
  !chars.any (fun c => Unicode.isSpace c || Unicode.isControl c) && !mailbox.isEmpty &&
    match chars.dropWhile (· != '@') with
    | [] => false
    | _ :: domain =>
      !domain.contains '@' && domain.contains '.' && domain.head? != some '.' &&
        domain.getLast? != some '.'

/-- **A request to open an account.** -/
structure Signup where
  /-- The name asked for. -/
  name : String
  /-- The email address. -/
  email : String
  /-- What the provider says. -/
  provider : Provider
deriving DecidableEq

/-- **Checks a request to open an account**, and gives the name of the account. -/
def Signup.check (request : Signup) : Except InvalidInput Identifier := do
  let name ← Identifier.ofAccountName request.name
  unless isEmail request.email do throw ⟨"email", request.email, .email⟩
  request.provider.check
  return name

/-- **The author of a change.** -/
structure Signature where
  /-- The author's name. -/
  name : String
  /-- The author's email address. -/
  email : String
deriving DecidableEq

/-- **An account.** -/
structure Account where
  /-- Its identifier. -/
  id : AccountId
  /-- Its name. -/
  name : Identifier
  /-- Its email address. -/
  email : String
  /-- What the provider says about its owner. -/
  provider : Provider
  /-- Whether it was deleted and is kept in the archive only. -/
  deleted : Bool
  /-- When it was opened, in milliseconds. -/
  createdAt : Int64
deriving DecidableEq

/-- The author recorded for changes made on behalf of an account. -/
def Account.signature (a : Account) : Signature := ⟨a.name.text, a.name.text⟩

end InstructionStore
