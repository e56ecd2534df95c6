/-
# Big-endian words

Multi-octet header fields are stored most significant octet first.  Words and octets are related
through natural numbers, so that reading a word back from its octets is a fact about division.
-/

namespace VoiceSteering.Frame

/-- The 16-bit word with the given octets. -/
def word16 (high low : UInt8) : UInt16 := UInt16.ofNat (high.toNat * 256 + low.toNat)

/-- The 32-bit word with the given octets. -/
def word32 (a b c d : UInt8) : UInt32 :=
  UInt32.ofNat (((a.toNat * 256 + b.toNat) * 256 + c.toNat) * 256 + d.toNat)

/-- The two 16-bit words with the given octets. -/
def halves (v : Vector UInt8 4) : UInt16 × UInt16 := (word16 v[0] v[1], word16 v[2] v[3])

/-- The octets of a 16-bit word. -/
def octets16 (w : UInt16) : Vector UInt8 2 :=
  #v[UInt8.ofNat (w.toNat / 256), UInt8.ofNat w.toNat]

/-- The octets of a 32-bit word. -/
def octets32 (w : UInt32) : Vector UInt8 4 :=
  #v[UInt8.ofNat (w.toNat / 16777216), UInt8.ofNat (w.toNat / 65536),
    UInt8.ofNat (w.toNat / 256), UInt8.ofNat w.toNat]

/-- The 16-bit word held by two octets. -/
def word16Of (v : Vector UInt8 2) : UInt16 := word16 v[0] v[1]

/-- The 32-bit word held by four octets. -/
def word32Of (v : Vector UInt8 4) : UInt32 := word32 v[0] v[1] v[2] v[3]

theorem toNat_word16 (high low : UInt8) :
    (word16 high low).toNat = high.toNat * 256 + low.toNat := by
  have := high.toNat_lt
  have := low.toNat_lt
  simp only [word16, UInt16.toNat_ofNat']
  omega

@[simp] theorem word16Of_octets16 (w : UInt16) : word16Of (octets16 w) = w := by
  have := w.toNat_lt
  apply UInt16.toNat_inj.1
  simp only [word16Of, octets16, toNat_word16]
  simp
  omega

@[simp] theorem octets16_word16Of (v : Vector UInt8 2) : octets16 (word16Of v) = v := by
  have := v[0].toNat_lt
  have := v[1].toNat_lt
  refine Vector.ext fun i hi => UInt8.toNat_inj.1 ?_
  simp only [octets16, word16Of, toNat_word16]
  rcases i with _ | _ | i
  · simp
    omega
  · simp
  · omega

@[simp] theorem word32Of_octets32 (w : UInt32) : word32Of (octets32 w) = w := by
  have := w.toNat_lt
  apply UInt32.toNat_inj.1
  simp only [word32Of, octets32, word32, UInt32.toNat_ofNat']
  simp
  omega

end VoiceSteering.Frame
