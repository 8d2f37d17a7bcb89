import InstructionStore.Account
import InstructionStore.Proofs.Input.Identifiers
import InstructionStore.Proofs.Lists

/-!
# Requests to open an account

A request is **proper** (`Signup.IsProper`) if its name is an identifier that accounts can
take, its email address has the shape of one, the provider is named, and the addresses that
are given are those of web pages. Each of these rules is about one field. A request that
breaks some of them is refused for the first field that does, in the order name, email
address, provider, page, picture (`Signup.IsRefusedFor`), and what is shown is the text of
that field.

The shape of an email address is a matter of how it can be divided: at the one `@` in it, and
then at the points of what follows (`IsEmailShaped`). The check scans the text from the left
up to the first `@`; `isEmail_iff` says that this is no different, since there is only one
place to divide it at.
-/

namespace InstructionStore

open Outcome

/-! ## Email addresses -/

/-- **What follows the `@` of an email address.** -/
structure IsEmailDomain (domain : List Char) : Prop where
  /-- There is no other `@`. -/
  once : '@' ∉ domain
  /-- There is a point. -/
  point : '.' ∈ domain
  /-- It does not begin with a point. -/
  notFirst : domain.head? ≠ some '.'
  /-- It does not end with a point. -/
  notLast : domain.getLast? ≠ some '.'

/-- **The shape of an email address.** -/
structure IsEmailShaped (text : String) : Prop where
  /-- There are no blanks and no control characters. -/
  plain : ∀ c ∈ text.toList, Unicode.isSpace c = false ∧ Unicode.isControl c = false
  /-- It can be divided at an `@` that is the only one, and there is something before it. -/
  divided : ∃ mailbox domain, text.toList = mailbox ++ '@' :: domain ∧ mailbox ≠ []
    ∧ '@' ∉ mailbox ∧ IsEmailDomain domain

theorem isEmailDomain_iff {domain : List Char} :
    (!domain.contains '@' && domain.contains '.' && domain.head? != some '.' &&
      domain.getLast? != some '.') = true ↔ IsEmailDomain domain := by
  simp only [Bool.and_eq_true, Bool.not_eq_true', bne_iff_ne, List.contains_iff_mem, and_assoc,
    ← Bool.not_eq_true (List.contains _ _)]
  exact ⟨fun ⟨once, point, first, last⟩ => ⟨once, point, first, last⟩,
    fun h => ⟨h.once, h.point, h.notFirst, h.notLast⟩⟩

/-- An email address has an `@` in it. -/
theorem at_mem_of_isEmail {text : String} (h : isEmail text = true) : '@' ∈ text.toList := by
  by_contra hnone
  have hdrop : text.toList.dropWhile (· != '@') = [] := by
    rw [List.dropWhile_eq_nil_iff]
    intro c hc
    rw [bne_iff_ne]
    rintro rfl
    exact hnone hc
  unfold isEmail at h
  dsimp only at h
  rw [hdrop, Bool.and_eq_true] at h
  exact Bool.false_ne_true h.2

/-- What is checked of a text that is divided at its first `@`. -/
theorem isEmail_of_divided {text : String} {mailbox domain : List Char}
    (split : text.toList = mailbox ++ '@' :: domain) (first : '@' ∉ mailbox) :
    isEmail text = true ↔
      (∀ c ∈ text.toList, Unicode.isSpace c = false ∧ Unicode.isControl c = false)
        ∧ mailbox ≠ [] ∧ IsEmailDomain domain := by
  have hbefore : ∀ c ∈ mailbox, (c != '@') = true := fun c hc =>
    bne_iff_ne.2 fun heq => first (heq ▸ hc)
  have htake : text.toList.takeWhile (· != '@') = mailbox := by
    rw [split, List.takeWhile_append_of_pos hbefore, List.takeWhile_cons_of_neg (by decide),
      List.append_nil]
  have hdrop : text.toList.dropWhile (· != '@') = '@' :: domain := by
    rw [split, List.dropWhile_append_of_pos hbefore, List.dropWhile_cons_of_neg (by decide)]
  unfold isEmail
  dsimp only
  rw [htake, hdrop, Bool.and_eq_true, Bool.and_eq_true, isEmailDomain_iff, Bool.not_eq_true',
    List.any_eq_false, Bool.not_eq_true', List.isEmpty_eq_false_iff, and_assoc]
  simp only [Bool.or_eq_true, not_or, Bool.not_eq_true]

/-- **The check accepts what has the shape of an email address.** -/
theorem isEmail_iff {text : String} : isEmail text = true ↔ IsEmailShaped text := by
  constructor
  · intro h
    obtain ⟨mailbox, domain, hsplit, hfirst⟩ := List.eq_append_cons_of_mem (at_mem_of_isEmail h)
    obtain ⟨hplain, hne, hdomain⟩ := (isEmail_of_divided hsplit hfirst).1 h
    exact ⟨hplain, mailbox, domain, hsplit, hne, hfirst, hdomain⟩
  · rintro ⟨hplain, mailbox, domain, hsplit, hne, hfirst, hdomain⟩
    exact (isEmail_of_divided hsplit hfirst).2 ⟨hplain, hne, hdomain⟩

/-! ## Names of accounts -/

namespace Identifier

variable {text : String} {name : Identifier} {refused : InvalidInput}

/-- **The names accounts can take**: identifiers that name no fixed place. -/
structure IsAccountName (text : String) : Prop where
  /-- It is an identifier. -/
  valid : IsValid text
  /-- It names no fixed place. -/
  free : text ∉ reserved

theorem isValid_of_mem_reserved (h : text ∈ reserved) : IsValid text := by
  revert text
  decide

theorem ofAccountName_eq_ok_iff :
    ofAccountName text = .ok name ↔ IsAccountName text ∧ name.text = text := by
  unfold ofAccountName isReserved
  simp only [bind_eq_ok_iff, ofField_eq_ok_iff, List.contains_iff_mem, throw_eq, pure_eq]
  constructor
  · rintro ⟨found, rfl, h⟩
    split at h
    · exact nomatch h
    · rename_i hfree
      cases h
      exact ⟨⟨name.valid, hfree⟩, rfl⟩
  · rintro ⟨hname, rfl⟩
    exact ⟨name, rfl, if_neg hname.free⟩

/-- A name accounts can take is taken. -/
theorem exists_ofAccountName (h : IsAccountName text) : ∃ name, ofAccountName text = .ok name :=
  ⟨⟨text, h.valid⟩, ofAccountName_eq_ok_iff.2 ⟨h, rfl⟩⟩

theorem ofAccountName_eq_error_iff :
    ofAccountName text = .error refused ↔
      (∃ d, HasDefect text d ∧ refused = ⟨"name", text, .identifier d⟩)
        ∨ text ∈ reserved ∧ refused = ⟨"name", text, .reserved⟩ := by
  unfold ofAccountName isReserved
  simp only [bind_eq_error_iff, ofField_eq_error_iff, ofField_eq_ok_iff, List.contains_iff_mem,
    throw_eq, pure_eq]
  refine or_congr_right ⟨?_, ?_⟩
  · rintro ⟨found, rfl, h⟩
    split at h
    · rename_i hreserved
      cases h
      exact ⟨hreserved, rfl⟩
    · exact nomatch h
  · rintro ⟨hreserved, rfl⟩
    exact ⟨⟨text, isValid_of_mem_reserved hreserved⟩, rfl, if_pos hreserved⟩

end Identifier

/-! ## Providers -/

namespace Provider

variable {p : Provider} {refused : InvalidInput}

/-- **A provider that is named**: there is something else than blanks. -/
def IsNamed (p : Provider) : Prop := ∃ c ∈ p.provider.toList, Unicode.isSpace c = false

theorem isBlank_iff : isBlank p.provider = true ↔ ¬p.IsNamed := by
  unfold isBlank IsNamed
  rw [List.all_eq_true, not_exists]
  simp only [not_and, Bool.not_eq_false]

theorem checkAddress_eq_ok_iff {field : String} {address : Option String} {u : Unit} :
    checkAddress field address = .ok u ↔ ∀ a ∈ address, Web.isWebAddress a = true := by
  cases address with
  | none => simp [checkAddress]
  | some a => by_cases ha : Web.isWebAddress a = true <;> simp [checkAddress, ha]

theorem checkAddress_eq_error_iff {field : String} {address : Option String} :
    checkAddress field address = .error refused ↔
      ∃ a ∈ address, Web.isWebAddress a = false ∧ refused = ⟨field, a, .url⟩ := by
  cases address with
  | none => simp [checkAddress]
  | some a =>
    unfold checkAddress
    simp only [Option.mem_def, Option.some.injEq, exists_eq_left']
    split
    case isTrue ha => simp [ha]
    case isFalse ha => simp only [Except.error.injEq, ha, true_and, eq_comm (a := refused)]

/-- **A provider whose description is proper**: it is named, and its addresses are those of
web pages. -/
structure IsProper (p : Provider) : Prop where
  /-- It is named. -/
  named : p.IsNamed
  /-- The owner's page is one. -/
  url : ∀ address ∈ p.url, Web.isWebAddress address = true
  /-- The owner's picture has the address of a page. -/
  image : ∀ address ∈ p.image, Web.isWebAddress address = true

/-- **What a provider is refused for**: the first field that breaks its rule. -/
inductive IsRefusedFor (p : Provider) : InvalidInput → Prop where
  /-- It is not named. -/
  | provider (unnamed : ¬p.IsNamed) : p.IsRefusedFor ⟨"provider", p.provider, .empty⟩
  /-- The owner's page is none, and the provider is named. -/
  | url {address : String} (named : p.IsNamed) (given : p.url = some address)
    (noPage : Web.isWebAddress address = false) :
    p.IsRefusedFor ⟨"provider_url", address, .url⟩
  /-- The owner's picture has no address of a page, and everything before it is proper. -/
  | image {address : String} (named : p.IsNamed)
    (url : ∀ page ∈ p.url, Web.isWebAddress page = true) (given : p.image = some address)
    (noPage : Web.isWebAddress address = false) :
    p.IsRefusedFor ⟨"provider_img", address, .url⟩

theorem check_of_isNamed (named : p.IsNamed) :
    p.check = (do checkAddress "provider_url" p.url; checkAddress "provider_img" p.image) :=
  if_neg fun hblank => isBlank_iff.1 hblank named

theorem check_of_not_isNamed (unnamed : ¬p.IsNamed) :
    p.check = .error ⟨"provider", p.provider, .empty⟩ :=
  if_pos (isBlank_iff.2 unnamed)

theorem check_eq_ok_iff : p.check = .ok () ↔ p.IsProper := by
  by_cases hnamed : p.IsNamed
  · rw [check_of_isNamed hnamed, bind_eq_ok_iff]
    simp only [checkAddress_eq_ok_iff]
    exact ⟨fun ⟨_, hurl, himage⟩ => ⟨hnamed, hurl, himage⟩, fun h => ⟨(), h.url, h.image⟩⟩
  · rw [check_of_not_isNamed hnamed]
    exact ⟨nofun, fun h => absurd h.named hnamed⟩

theorem check_eq_error_iff : p.check = .error refused ↔ p.IsRefusedFor refused := by
  by_cases hnamed : p.IsNamed
  · rw [check_of_isNamed hnamed, bind_eq_error_iff]
    simp only [checkAddress_eq_error_iff, checkAddress_eq_ok_iff]
    constructor
    · rintro (⟨address, hgiven, hno, rfl⟩ | ⟨-, hurl, address, hgiven, hno, rfl⟩)
      · exact .url hnamed hgiven hno
      · exact .image hnamed hurl hgiven hno
    · intro h
      cases h with
      | provider unnamed => exact absurd hnamed unnamed
      | url _ given noPage => exact .inl ⟨_, given, noPage, rfl⟩
      | image _ url given noPage => exact .inr ⟨(), url, _, given, noPage, rfl⟩
  · rw [check_of_not_isNamed hnamed]
    constructor
    · rintro ⟨⟩
      exact .provider hnamed
    · intro h
      cases h with
      | provider => rfl
      | url named => exact absurd named hnamed
      | image named => exact absurd named hnamed

end Provider

/-! ## Requests -/

namespace Signup

variable {request : Signup} {name : Identifier} {refused : InvalidInput}

/-- **A request with nothing wrong.** -/
structure IsProper (request : Signup) : Prop where
  /-- Accounts can take the name. -/
  name : Identifier.IsAccountName request.name
  /-- The email address has the shape of one. -/
  email : IsEmailShaped request.email
  /-- What the provider says is proper. -/
  provider : request.provider.IsProper

/-- **What a request is refused for**: the first field that breaks its rule. -/
inductive IsRefusedFor (request : Signup) : InvalidInput → Prop where
  /-- The name is no identifier. -/
  | identifier {d : Identifier.Defect} (defect : Identifier.HasDefect request.name d) :
    request.IsRefusedFor ⟨"name", request.name, .identifier d⟩
  /-- The name is that of a fixed place. -/
  | reserved (reserved : request.name ∈ Identifier.reserved) :
    request.IsRefusedFor ⟨"name", request.name, .reserved⟩
  /-- The email address does not have the shape of one, and accounts can take the name. -/
  | email (name : Identifier.IsAccountName request.name)
    (shapeless : ¬IsEmailShaped request.email) :
    request.IsRefusedFor ⟨"email", request.email, .email⟩
  /-- What the provider says is refused, and everything before it is proper. -/
  | provider {refused : InvalidInput} (name : Identifier.IsAccountName request.name)
    (email : IsEmailShaped request.email) (refuses : request.provider.IsRefusedFor refused) :
    request.IsRefusedFor refused

/-- What is left to check once the name is taken. -/
theorem check_of_ofAccountName (h : Identifier.ofAccountName request.name = .ok name) :
    request.check = if isEmail request.email = true then (do request.provider.check; return name)
      else .error ⟨"email", request.email, .email⟩ := by
  unfold check
  rw [h]
  rfl

/-- **A request passes the check if nothing is wrong with it**, and its name is that of the
account. -/
theorem check_eq_ok_iff :
    request.check = .ok name ↔ request.IsProper ∧ name.text = request.name := by
  constructor
  · intro h
    obtain ⟨name', hname, -⟩ := bind_eq_ok_iff.1 h
    obtain ⟨hfree, htext⟩ := Identifier.ofAccountName_eq_ok_iff.1 hname
    rw [check_of_ofAccountName hname] at h
    split at h
    · rename_i hemail
      obtain ⟨_, hprovider, h⟩ := bind_eq_ok_iff.1 h
      cases h
      exact ⟨⟨hfree, isEmail_iff.1 hemail, Provider.check_eq_ok_iff.1 hprovider⟩, htext⟩
    · exact nomatch h
  · rintro ⟨hproper, htext⟩
    have hname := Identifier.ofAccountName_eq_ok_iff.2 ⟨hproper.name, htext⟩
    rw [check_of_ofAccountName hname, if_pos (isEmail_iff.2 hproper.email),
      Provider.check_eq_ok_iff.2 hproper.provider]
    rfl

/-- **The check refuses a request for the first field that breaks its rule.** -/
theorem check_eq_error_iff : request.check = .error refused ↔ request.IsRefusedFor refused := by
  constructor
  · intro h
    obtain hname | ⟨name, hname, -⟩ := bind_eq_error_iff.1 h
    · obtain ⟨d, hd, rfl⟩ | ⟨hreserved, rfl⟩ := Identifier.ofAccountName_eq_error_iff.1 hname
      · exact .identifier hd
      · exact .reserved hreserved
    · obtain ⟨hfree, -⟩ := Identifier.ofAccountName_eq_ok_iff.1 hname
      rw [check_of_ofAccountName hname] at h
      split at h
      · rename_i hemail
        obtain hprovider | ⟨_, -, h⟩ := bind_eq_error_iff.1 h
        · exact .provider hfree (isEmail_iff.1 hemail) (Provider.check_eq_error_iff.1 hprovider)
        · exact nomatch h
      · rename_i hemail
        cases h
        exact .email hfree (mt isEmail_iff.2 hemail)
  · intro h
    cases h with
    | identifier defect =>
      refine bind_eq_error_iff.2 (.inl (Identifier.ofAccountName_eq_error_iff.2 (.inl ?_)))
      exact ⟨_, defect, rfl⟩
    | reserved reserved =>
      refine bind_eq_error_iff.2 (.inl (Identifier.ofAccountName_eq_error_iff.2 (.inr ?_)))
      exact ⟨reserved, rfl⟩
    | email name shapeless =>
      obtain ⟨_, hname⟩ := Identifier.exists_ofAccountName name
      rw [check_of_ofAccountName hname, if_neg (mt isEmail_iff.1 shapeless)]
    | provider name email refuses =>
      obtain ⟨_, hname⟩ := Identifier.exists_ofAccountName name
      rw [check_of_ofAccountName hname, if_pos (isEmail_iff.2 email),
        Provider.check_eq_error_iff.2 refuses]
      rfl

/-- **A request is accepted exactly if it is proper**, under the name it gives, and any other
is refused for the first field that breaks its rule. -/
theorem check_blamesFirst (request : Signup) :
    (∀ name, request.check = .ok name ↔ request.IsProper ∧ name.text = request.name) ∧
    ∀ refused, request.check = .error refused ↔ request.IsRefusedFor refused :=
  ⟨fun _ => check_eq_ok_iff, fun _ => check_eq_error_iff⟩

end Signup

end InstructionStore
