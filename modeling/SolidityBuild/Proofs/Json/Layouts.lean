import SolidityBuild.Proofs.Json.Limits

/-! # Both layouts carry the value

The two layouts of a value within the limits differ in blanks only, as far as a
reader can tell: either of them reads as the value, with its members in their
order, and printing what was read gives what would have been printed at once.
-/

namespace SolidityBuild.Json

/-- Whatever the layout, a text is read as the value that was printed. So a value
    that was read is printed as before, a text in one layout can be brought into the
    other without a change of the value, and no two values have a text in common. -/
theorem layouts_carry_value {depth : Nat} {v : Json} (shallow : depth ≤ nestingLimit)
    (fits : Fits depth v) (layout other : Layout) :
    read (v.print layout) = .ok v ∧
    (read (v.print layout)).map (Json.print other) = .ok (v.print other) ∧
    read (v.print layout) = read (v.print other) ∧
    ∀ w, Fits depth w → w.print other = v.print layout → w = v := by
  have reads (layout : Layout) : read (v.print layout) = .ok v :=
    read_print (fits.mono shallow) layout
  refine ⟨reads layout, ?_, (reads layout).trans (reads other).symm, fun w fits same => ?_⟩
  · rw [reads layout]
    rfl
  · have read_w := read_print (fits.mono shallow) other
    rw [same, reads layout] at read_w
    exact (Except.ok.inj read_w).symm

/-- A value within more and more brackets. -/
private def boxed (v : Json) : Nat → Json
  | 0 => v
  | count + 1 => .arr [boxed v count]

private theorem boxed_fits {depth : Nat} {v : Json} (fits : Fits depth v) (count : Nat) :
    Fits (depth + count) (boxed v count) := by
  induction count with
  | zero => exact fits
  | succ count ih => exact .arr (List.forall_mem_singleton.mpr ih)

private theorem length_power {count limit : Nat} (short : count < limit) :
    (Nat.toDigits 10 (-(10 ^ count) : Int).natAbs).length ≤ limit := by
  rw [Int.natAbs_neg, Int.natAbs_pow]
  exact (Nat.length_toDigits_le_iff (by decide) (by omega)).mpr
    (Nat.pow_lt_pow_right (by decide) short)

/-- Two hundred levels around the longest integer, with a key and a text of all kinds
    of characters. -/
theorem layouts_carry_value_boxed :
    let v := boxed (.obj [("\"\\\x00\n\x7fé", .int (-(10 ^ 4299))), ("", .str "\x1f😀/")]) 199
    200 ≤ nestingLimit ∧ Fits 200 v ∧ read (v.print .indented) = .ok v ∧
      (read (v.print .indented)).map (Json.print .compact) = .ok (v.print .compact) := by
  intro v
  have inner : Fits 1 (.obj [("\"\\\x00\n\x7fé", .int (-(10 ^ 4299))), ("", .str "\x1f😀/")]) := by
    refine .obj (by decide) fun member present => ?_
    rcases List.mem_cons.mp present with rfl | last
    · exact .int (length_power (by decide))
    · obtain rfl := List.mem_singleton.mp last
      exact .str _
  have fits : Fits 200 v := boxed_fits inner 199
  obtain ⟨reads, again, -, -⟩ := layouts_carry_value (by decide) fits .indented .compact
  exact ⟨by decide, fits, reads, again⟩

end SolidityBuild.Json
