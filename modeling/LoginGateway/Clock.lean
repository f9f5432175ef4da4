import LoginGateway.Duration

namespace LoginGateway

structure ManualClock where
  millis : UInt64
  deriving DecidableEq

namespace ManualClock

/-- A span cut to whole milliseconds; a span too long for 64 bits becomes the longest that fits. -/
def ticks (d : Duration) : UInt64 := UInt64.ofNat (min d.millis (18446744073709551615))

def startingAt (start : Duration) : ManualClock := ⟨ticks start⟩

def now (clock : ManualClock) : Duration := Duration.ofMillis clock.millis

/-- Moves the clock forward; past the last millisecond it starts again from zero. -/
def advance (clock : ManualClock) (span : Duration) : ManualClock := ⟨clock.millis + ticks span⟩

def set (_clock : ManualClock) (time : Duration) : ManualClock := ⟨ticks time⟩

theorem toNat_ticks (d : Duration) : (ticks d).toNat = min d.millis (18446744073709551615) :=
  UInt64.toNat_ofNat_of_lt' (by simp only [UInt64.size]; omega)

@[simp] theorem nanos_now (clock : ManualClock) : clock.now.nanos = clock.millis.toNat * 1000000 := rfl

theorem now_set (clock : ManualClock) (ms : UInt64) :
    (clock.set (Duration.ofMillis ms)).now = Duration.ofMillis ms := by
  apply Duration.ext_nanos
  have := ms.toNat_lt
  simp only [nanos_now, set, toNat_ticks, Duration.millis, Duration.nanos_ofMillis]
  omega

end ManualClock

end LoginGateway
