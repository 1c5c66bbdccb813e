import ReleaseTrigger.Proofs.Url.Ipv4.Notation

/-! # Written addresses of version 4

The dotted form of an address has four parts, each a decimal numeral without a leading zero, so no
part is taken for octal or hexadecimal. Reading it gives the address back.
-/

namespace ReleaseTrigger.Ipv4

/-- The octets are the digits of the address in base 256. -/
theorem ofNumbers?_octets (address : Ipv4) : ofNumbers? (octets address) = some address := by
  have bound := address.isLt
  have octet (number : Nat) : number % 256 ≤ 255 := Nat.le_of_lt_succ (Nat.mod_lt _ (by decide))
  have split : octets address = [address.toNat / 0x1000000 % 256, address.toNat / 0x10000 % 256,
      address.toNat / 0x100 % 256] ++ [address.toNat % 256] := rfl
  rw [split]
  have fits : Fits [address.toNat / 0x1000000 % 256, address.toNat / 0x10000 % 256,
      address.toNat / 0x100 % 256] (address.toNat % 256) :=
    ⟨Nat.le_refl 3, by simp [octet], Nat.mod_lt _ (by decide)⟩
  refine ofNumbers?_eq_some_iff.mpr ⟨fits, ?_⟩
  rw [total_eq fits.length_le]
  simp only [Text.valueOf, List.foldl_cons, List.foldl_nil, List.length_cons, List.length_nil]
  omega

/-- An address is read back from its dotted form. -/
theorem parse?_render (address : Ipv4) : parse? (render address) = some address := by
  rw [(dotted_render address).parse?_eq, ofNumbers?_octets]

/-- An address is shown as four octets, which have it for their sum. -/
theorem exists_octets (address : Ipv4) :
    ∃ a b c d, (a ≤ 255 ∧ b ≤ 255 ∧ c ≤ 255 ∧ d ≤ 255) ∧
      address.toNat = a * 256 ^ 3 + b * 256 ^ 2 + c * 256 + d ∧
      render address = Text.decimal a ++ '.' :: (Text.decimal b ++ '.' ::
        (Text.decimal c ++ '.' :: Text.decimal d)) := by
  have bound := address.isLt
  refine ⟨_, _, _, _, ?_, ?_, render_eq address⟩ <;> omega

theorem render_injective : Function.Injective render := by
  intro first second same
  have read := parse?_render first
  rw [same, parse?_render, Option.some.injEq] at read
  exact read.symm

theorem mem_render {address : Ipv4} {c : Char} (member : c ∈ render address) :
    c.isDigit = true ∨ c = '.' := by
  obtain member | ⟨part, present, member⟩ := Text.mem_intercalate member
  · exact .inr (List.mem_singleton.mp member)
  · obtain ⟨octet, -, rfl⟩ := List.mem_map.mp present
    exact .inl (Text.isDigit_of_mem_decimal member)

end ReleaseTrigger.Ipv4
