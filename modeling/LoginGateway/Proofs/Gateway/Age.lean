import LoginGateway.Proofs.Gateway.Login

namespace LoginGateway

open Http

namespace Duration

variable {issued age : Duration}

/-- Within `age` of `issued` no instant falls into a second that is too late exactly if the two parts of a
second fit into one, or if there is no later second. -/
theorem seconds_le_iff : (∀ now : Duration, issued ≤ now → now.nanos ≤ issued.nanos + age.nanos →
      now.seconds ≤ issued.seconds + age.seconds) ↔
    issued.subsecNanos + age.subsecNanos < 1000000000 ∨
      UInt64.size ≤ issued.seconds + age.seconds + 1 := by
  have hissued := issued.seconds_subsecNanos
  have hage := age.seconds_subsecNanos
  have hsize : UInt64.size = 18446744073709551616 := rfl
  constructor
  · intro h
    by_contra hcut
    obtain ⟨hcarry, hroom⟩ := not_or.mp hcut
    -- the second that is one too many begins before the age is reached
    obtain ⟨now, hnow⟩ : ∃ now : Duration,
        now.nanos = (issued.seconds + age.seconds + 1) * 1000000000 := ⟨⟨_, by omega⟩, rfl⟩
    have hsubsec := issued.subsecNanos_lt
    have hsubsec' := age.subsecNanos_lt
    have hle := h now (by rw [le_def]; omega) (by omega)
    rw [seconds, hnow, Nat.mul_div_cancel _ (by decide)] at hle
    exact Nat.not_succ_le_self _ hle
  · rintro (hfits | hlast) now - hnow
    · have hparts := now.seconds_subsecNanos
      omega
    · have hlt := now.seconds_lt
      omega

theorem seconds_le_of_whole {now : Duration} (h : now.nanos ≤ issued.nanos + age.seconds * 1000000000) :
    now.seconds ≤ issued.seconds + age.seconds := by
  rw [seconds, seconds, ← Nat.add_mul_div_right _ _ (by decide)]
  exact Nat.div_le_div_right h

end Duration

namespace Gateway

section From

variable (gateway : Gateway)

/-- The session that a login at `issued` begins lasts the greatest age: its token is good until then, and
its cookie is not thrown away at once. -/
def LastsFrom (issued : Duration) : Prop :=
  (∀ now, issued ≤ now → now.nanos ≤ issued.nanos + gateway.config.sessionMaxAge.nanos →
    gateway.codec.verify now (gateway.codec.issue issued) = true) ∧
  ∃ response cookie, gateway.accepted issued = .ok response ∧
    response.headers.all .setCookie = [cookie] ∧
    Session.Cookie.returned cookie =
      (Session.Cookie.pair (gateway.codec.issue issued)).flatMap String.utf8EncodeChar ∧
    Session.Cookie.keptFor? cookie ≠ some 0

theorem exists_kept (issued : Duration) :
    ∃ cookie, gateway.accepted issued = .ok (success.withHeader .setCookie cookie) ∧
      Session.Cookie.returned cookie =
        (Session.Cookie.pair (gateway.codec.issue issued)).flatMap String.utf8EncodeChar ∧
      Session.Cookie.keptFor? cookie = some gateway.config.sessionMaxAge.seconds := by
  have hplain := Session.Cookie.plain_issue gateway.codec issued
  obtain ⟨cookie, hcookie, hreturned⟩ := Session.Cookie.exists_setting? hplain.printable hplain.semicolon
    gateway.config.sessionMaxAge gateway.config.cookieSecure
  refine ⟨cookie, ?_, hreturned, Session.Cookie.keptFor?_eq hplain.printable hplain.semicolon hcookie⟩
  unfold accepted
  rw [hcookie]

theorem lastsFrom_iff (issued : Duration) : gateway.LastsFrom issued ↔
    (issued.subsecNanos + gateway.config.sessionMaxAge.subsecNanos < 1000000000 ∨
        UInt64.size ≤ issued.seconds + gateway.config.sessionMaxAge.seconds + 1) ∧
      gateway.config.sessionMaxAge.seconds ≠ 0 := by
  obtain ⟨cookie, haccepted, hreturned, hkept⟩ := gateway.exists_kept issued
  have htoken (now : Duration) : gateway.codec.verify now (gateway.codec.issue issued) = true ↔
      now.seconds ≤ issued.seconds + gateway.config.sessionMaxAge.seconds :=
    gateway.codec.verify_issue issued now
  have hcookie : (success.withHeader .setCookie cookie).headers.all .setCookie = [cookie] := rfl
  simp only [LastsFrom, htoken, Duration.seconds_le_iff]
  refine and_congr_right' ?_
  constructor
  · rintro ⟨response, cookie', haccepted', hcookie', -, hkept'⟩ hzero
    obtain rfl := Except.ok.inj (haccepted.symm.trans haccepted')
    obtain rfl := List.singleton_inj.mp (hcookie.symm.trans hcookie')
    exact hkept' (hzero ▸ hkept)
  · intro hne
    refine ⟨_, cookie, haccepted, hcookie, hreturned, ?_⟩
    rw [hkept]
    exact fun h => hne (Option.some.inj h)

end From

/-- Sessions last the greatest age, whenever they begin, exactly if it is a number of whole seconds, or if
it is so long that the clock ends first. From one time of issue they do also if its part of a second and
that of the age are less than a second together. The whole seconds of the age are never cut short. A cookie
is kept for those seconds, so an age of less than a second lasts from no time at all. -/
theorem lasts_iff (gateway : Gateway) :
    let age := gateway.config.sessionMaxAge
    (∀ issued, gateway.LastsFrom issued ↔
      (issued.subsecNanos + age.subsecNanos < 1000000000 ∨
        UInt64.size ≤ issued.seconds + age.seconds + 1) ∧ 1000000000 ≤ age.nanos) ∧
    ((∀ issued, gateway.LastsFrom issued) ↔
      (age.subsecNanos = 0 ∨ age.seconds + 1 = UInt64.size) ∧ 1000000000 ≤ age.nanos) ∧
    ∀ issued now, issued ≤ now → now.nanos ≤ issued.nanos + age.seconds * 1000000000 →
      gateway.codec.verify now (gateway.codec.issue issued) = true := by
  intro age
  have hfrom (issued : Duration) : gateway.LastsFrom issued ↔
      (issued.subsecNanos + age.subsecNanos < 1000000000 ∨
        UInt64.size ≤ issued.seconds + age.seconds + 1) ∧ 1000000000 ≤ age.nanos := by
    have hlong : age.seconds ≠ 0 ↔ 1000000000 ≤ age.nanos := by
      rw [Duration.seconds]
      omega
    rw [← hlong]
    exact gateway.lastsFrom_iff issued
  have hseconds := age.seconds_lt
  have hsize : UInt64.size = 18446744073709551616 := rfl
  refine ⟨hfrom, ?_, fun issued now _ hnow => ?_⟩
  · constructor
    · intro hall
      -- the worst time to begin is the last nanosecond of a second
      obtain ⟨hfits | hlast, hlong⟩ := (hfrom ⟨999999999, by decide⟩).mp (hall _)
      · have hsubsec : (⟨999999999, by decide⟩ : Duration).subsecNanos = 999999999 := rfl
        exact ⟨.inl (by omega), hlong⟩
      · have hzero : (⟨999999999, by decide⟩ : Duration).seconds = 0 := rfl
        exact ⟨.inr (by omega), hlong⟩
    · rintro ⟨hwhole, hlong⟩ issued
      refine (hfrom issued).mpr ⟨?_, hlong⟩
      obtain hwhole | hlast := hwhole
      · exact .inl (by rw [hwhole]; exact issued.subsecNanos_lt)
      · exact .inr (by omega)
  · exact (gateway.codec.verify_issue issued now).mpr (Duration.seconds_le_of_whole hnow)

def brief : Gateway where
  config := { Config.small with sessionMaxAge := .ofMillis 500 }
  valid := by decide +kernel
  ledger := .empty

/-- One that begins at 0.6 s is over at 1 s. -/
theorem not_lasts_of_brief :
    ¬ ∀ (gateway : Gateway) (issued : Duration), gateway.LastsFrom issued := by
  intro h
  have hgood := (h brief (.ofMillis 600)).1 (.ofMillis 1000) (by decide) (by decide)
  have hseconds := (brief.codec.verify_issue (.ofMillis 600) (.ofMillis 1000)).mp hgood
  exact absurd hseconds (by decide)

end Gateway

end LoginGateway
