import CommandLink.Address
import CommandLink.Proofs.Text.Lowercase

/-!
# Addresses are read back

The text of an address is read as that address (`Address.parse?_text`): the last colon is the one in
front of the port, however many the host has (`Address.splitLastColon_append`), the port is read
from its digits (`Text.decimalBelow?_toDigits`), and the host is in lower case already. So an
address that was read is read again from its own text (`addresses_read_back`).
-/

namespace CommandLink

namespace Text

/-! ## Numbers in decimal -/

theorem digit?_of_isDigit {c : Char} (h : c.isDigit = true) :
    digit? c = some (c.toNat - '0'.toNat) := by
  rw [Char.isDigit, Bool.and_eq_true, decide_eq_true_eq, decide_eq_true_eq] at h
  exact if_pos h

/-- Digits are read as the number that they write. -/
theorem digits?_of_isDigit {chars : List Char} (value : Nat)
    (h : ∀ c ∈ chars, c.isDigit = true) :
    digits? value chars = some (Nat.ofDigitChars 10 chars value) := by
  induction chars generalizing value with
  | nil => rw [digits?, Nat.ofDigitChars_nil]
  | cons c rest ih =>
    rw [digits?, digit?_of_isDigit (h c List.mem_cons_self), Option.bind_some,
      ih _ fun d hd => h d (List.mem_cons_of_mem _ hd), Nat.ofDigitChars_cons]

/-- **A number is read back** from the digits that write it, under any bound that it keeps to. -/
theorem decimalBelow?_toDigits {bound n : Nat} (h : n < bound) :
    decimalBelow? bound (Nat.toDigits 10 n) = some n := by
  have hdigits : ∀ c ∈ Nat.toDigits 10 n, c.isDigit = true := fun c hc =>
    Nat.isDigit_of_mem_toDigits (by decide) (by decide) hc
  have hread : digits? 0 (Nat.toDigits 10 n) = some n := by
    rw [digits?_of_isDigit 0 hdigits, Nat.ofDigitChars_ten_toDigits]
  have hunsigned : ∀ rest, Nat.toDigits 10 n ≠ '+' :: rest := by
    intro rest hplus
    have := hdigits '+' (hplus ▸ List.mem_cons_self)
    exact absurd this (by decide)
  dsimp only [decimalBelow?]
  split
  · rename_i rest hplus
    exact absurd hplus (hunsigned rest)
  · rw [if_neg Nat.toDigits_ne_nil, hread]
    exact Option.filter_some_pos (by simpa using h)

end Text

namespace Address

/-! ## The last colon -/

/-- The last colon is the one that no other follows. -/
theorem splitLastColon_append (host : List Char) {port : List Char} (h : ':' ∉ port) :
    splitLastColon (host ++ ':' :: port) = some (host, port) := by
  have hport : ∀ c ∈ port.reverse, (decide (c ≠ ':')) = true := by
    intro c hc
    refine decide_eq_true ?_
    rintro rfl
    exact h (List.mem_reverse.mp hc)
  have hreverse : (host ++ ':' :: port).reverse = port.reverse ++ ':' :: host.reverse := by
    rw [List.reverse_append, List.reverse_cons, List.append_assoc, List.singleton_append]
  have hbehind : (port.reverse ++ ':' :: host.reverse).takeWhile (· ≠ ':') = port.reverse := by
    rw [List.takeWhile_append_of_pos hport, List.takeWhile_cons_of_neg (by decide),
      List.append_nil]
  have hbefore : (port.reverse ++ ':' :: host.reverse).dropWhile (· ≠ ':') =
      ':' :: host.reverse := by
    rw [List.dropWhile_append_of_pos hport, List.dropWhile_cons_of_neg (by decide)]
  rw [splitLastColon, hreverse, hbefore]
  simp only [hbehind, List.reverse_reverse]

/-! ## The text of an address -/

theorem toList_text (address : Address) :
    address.text.toList = address.host.toList ++ ':' :: Nat.toDigits 10 address.port.toNat := by
  rw [text, String.toList_append, String.toList_append, Nat.toString_eq_repr, Nat.toList_repr,
    List.append_assoc]
  rfl

/-- The text of an address falls into its host and the digits of its port. -/
theorem splitLastColon_text (address : Address) :
    splitLastColon address.text.toList =
      some (address.host.toList, Nat.toDigits 10 address.port.toNat) := by
  have hcolon : ':' ∉ Nat.toDigits 10 address.port.toNat := by
    intro hmem
    have : (':').isDigit = true := Nat.isDigit_of_mem_toDigits (by decide) (by decide) hmem
    exact absurd this (by decide)
  rw [toList_text, splitLastColon_append _ hcolon]

/-- **What is read from the text of an address**: nothing if it has no host, and otherwise the
address with its host in lower case. -/
theorem parse?_text (address : Address) :
    parse? address.text =
      if address.host = "" then none else some (ofHost address.host address.port) := by
  have hport : Text.decimalBelow? 65536 (Nat.toDigits 10 address.port.toNat) =
      some address.port.toNat := Text.decimalBelow?_toDigits address.port.toNat_lt
  simp only [parse?, splitLastColon_text, String.toList_eq_nil_iff, hport, Option.map_some,
    String.ofList_toList, UInt16.ofNat_toNat]

/-- An address of a host has no host just if the host is empty. -/
theorem host_ofHost_eq_empty_iff {host : String} {port : UInt16} :
    (ofHost host port).host = "" ↔ host = "" :=
  Text.lowercase_eq_empty_iff

/-- The host of such an address is in lower case already. -/
theorem ofHost_host_ofHost (host : String) (port : UInt16) :
    ofHost (ofHost host port).host (ofHost host port).port = ofHost host port := by
  rw [ofHost, ofHost, Text.lowercase_lowercase]

/-- Whatever is read as an address has a host that is not empty. -/
theorem exists_ofHost_of_parse? {value : String} {address : Address}
    (h : parse? value = some address) :
    ∃ host port, host ≠ "" ∧ address = ofHost host port := by
  unfold parse? at h
  split at h
  · split at h
    · cases h
    · rename_i hempty
      cases h
      refine ⟨value, defaultPort, ?_, rfl⟩
      rintro rfl
      exact hempty rfl
  · split at h
    · cases h
    · rename_i host port _ hempty
      obtain ⟨n, -, rfl⟩ := Option.map_eq_some_iff.mp h
      exact ⟨String.ofList host, UInt16.ofNat n, mt String.ofList_eq_empty_iff.mp hempty, rfl⟩

end Address

/-- **Addresses are read back.** The text of a host and a port is read as their address just if the
host is not empty, whatever colons and letters it has. An address that was read from any text is
read again from its own, and its host is not empty. -/
theorem addresses_read_back :
    (∀ (host : String) (port : UInt16),
      Address.parse? (Address.ofHost host port).text = some (Address.ofHost host port) ↔
        host ≠ "") ∧
    ∀ (value : String) (address : Address), Address.parse? value = some address →
      Address.parse? address.text = some address ∧ address.host ≠ "" := by
  have hback : ∀ (host : String) (port : UInt16), host ≠ "" →
      Address.parse? (Address.ofHost host port).text = some (Address.ofHost host port) := by
    intro host port hhost
    rw [Address.parse?_text, if_neg (mt Address.host_ofHost_eq_empty_iff.mp hhost),
      Address.ofHost_host_ofHost]
  refine ⟨fun host port => ⟨?_, hback host port⟩, fun value address hvalue => ?_⟩
  · rintro hread rfl
    rw [Address.parse?_text, if_pos (Address.host_ofHost_eq_empty_iff.mpr rfl)] at hread
    cases hread
  · obtain ⟨host, port, hhost, rfl⟩ := Address.exists_ofHost_of_parse? hvalue
    exact ⟨hback host port hhost, mt Address.host_ofHost_eq_empty_iff.mp hhost⟩

/-- A host with a colon, a dotted capital and a sigma at its end is read, and read again. -/
theorem addresses_read_back_colons :
    let address : Address := ⟨"[::1]:i\u0307ς", 80⟩
    Address.parse? "[::1]:İΣ:+080" = some address ∧ address.text = "[::1]:i\u0307ς:80" ∧
      Address.parse? address.text = some address := by
  intro address
  have hread : Address.parse? "[::1]:İΣ:+080" = some address := by decide +kernel
  exact ⟨hread, by decide +kernel, (addresses_read_back.2 _ address hread).1⟩

end CommandLink
