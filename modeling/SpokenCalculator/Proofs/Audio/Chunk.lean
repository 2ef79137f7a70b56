import SpokenCalculator.Audio.Chunk

namespace SpokenCalculator

namespace Sample

theorem exists_bytes_eq (sample : Sample) :
    ∃ low high, sample.bytes = [low, high] ∧ ofBytes low high = sample := by
  have hlow : sample.toUInt16.toNat % 256 % 2 ^ 8 = sample.toUInt16.toNat % 256 :=
    Nat.mod_mod_of_dvd _ (Nat.dvd_refl _)
  have hhigh : sample.toUInt16.toNat / 256 % 2 ^ 8 = sample.toUInt16.toNat / 256 := by
    have := sample.toUInt16.toNat_lt
    omega
  refine ⟨_, _, rfl, ?_⟩
  rw [ofBytes, UInt8.toNat_ofNat', UInt8.toNat_ofNat', hlow, hhigh, Nat.mod_add_div,
    UInt16.ofNat_toNat, Int16.toInt16_toUInt16]

theorem decodeAfter_flatMap_bytes (read samples : List Sample) :
    decodeAfter read (samples.flatMap bytes) = .ok (read.reverse ++ samples) := by
  induction samples generalizing read with
  | nil => rw [List.flatMap_nil, decodeAfter, List.append_nil]
  | cons sample rest ih =>
      obtain ⟨low, high, hbytes, hsample⟩ := sample.exists_bytes_eq
      rw [List.flatMap_cons, hbytes, List.cons_append, List.cons_append, List.nil_append,
        decodeAfter, hsample, ih, List.reverse_cons, List.append_assoc, List.singleton_append]

end Sample

namespace Chunk

theorem samples_ofSamples (samples : List Sample) (rate : Int) :
    (ofSamples samples rate).samples = .ok samples :=
  Sample.decodeAfter_flatMap_bytes [] samples

end Chunk

end SpokenCalculator
