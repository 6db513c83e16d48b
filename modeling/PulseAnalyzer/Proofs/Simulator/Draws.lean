import PulseAnalyzer.Simulator.Acquisition

set_option autoImplicit false

namespace PulseAnalyzer
namespace SimulatedApi

section bins
variable (key : Noise.Key) (start length : Nat) (exposure : Float)

-- The block at hand is the one of the next draw, unless the next draw is the first of its block.
theorem bins_drawn (left index : Nat) (block : Noise.Block) (acc : Array UInt32)
    (current : (start + index) % 8 ≠ 0 → block = Noise.block key (UInt64.ofNat ((start + index) / 8))) :
    (bins key start length exposure left index block acc).toList =
      acc.toList ++ (List.range' index left).map fun b => bin length exposure b (Noise.draw key (start + b)) := by
  induction left generalizing index block acc with
  | zero => exact (List.append_nil _).symm
  | succ left ih =>
      have renewed : (if (start + index) % 8 = 0 then Noise.block key (UInt64.ofNat ((start + index) / 8)) else block) =
          Noise.block key (UInt64.ofNat ((start + index) / 8)) := by
        split
        · rfl
        · exact current ‹_›
      have next : (start + (index + 1)) % 8 ≠ 0 → Noise.block key (UInt64.ofNat ((start + index) / 8)) =
          Noise.block key (UInt64.ofNat ((start + (index + 1)) / 8)) := by
        intro within
        have same : (start + (index + 1)) / 8 = (start + index) / 8 := by omega
        rw [same]
      rw [bins, renewed, ih (index + 1) _ _ next, Array.toList_push, List.range'_succ, List.map_cons, List.append_assoc]
      rfl

theorem spectrum_at_drawn : (spectrumAt key start length exposure).toList =
    (List.range length).map fun b => bin length exposure b (Noise.draw key (start + b)) := by
  rw [List.range_eq_range']
  exact bins_drawn key start length exposure length 0 _ #[] (fun _ => rfl)

theorem spectrum_at_size : (spectrumAt key start length exposure).size = length := by
  rw [← Array.length_toList, spectrum_at_drawn, List.length_map, List.length_range]

theorem spectrum_at_bin (b : Nat) (inside : b < length) :
    (spectrumAt key start length exposure)[b]? = some (bin length exposure b (Noise.draw key (start + b))) := by
  rw [← Array.getElem?_toList, spectrum_at_drawn, List.getElem?_map, List.getElem?_range inside]
  rfl

end bins

end SimulatedApi
end PulseAnalyzer
