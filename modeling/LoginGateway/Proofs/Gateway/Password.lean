import LoginGateway.Proofs.Gateway.Login
import LoginGateway.Proofs.Login.Body

namespace LoginGateway.Gateway

open Http Attempts

/-- The body arrived as a whole, is not too long, and is a JSON text of a value that gives the password. -/
def IsTextOf (password : String) (body : Body) : Prop :=
  body.complete = true ∧ body.content.size ≤ 16384 ∧
    ∃ v : Login.Value, v.Writes body.content.data.toList ∧ v.Gives password

theorem givenPassword?_eq_some_iff {body : Body} {password : String} :
    givenPassword? body = some password ↔ IsTextOf password body := by
  rw [IsTextOf, ← Login.Body.password?_eq_some_iff, givenPassword?, maxLoginSize,
    Option.ite_none_left_eq_some, Bool.or_eq_true, not_or, decide_eq_true_eq, Nat.not_lt,
    Bool.not_eq_true', Bool.not_eq_false, and_assoc]

/-- An admitted login is answered by 200 exactly if its body is not too long and a JSON text that gives the
password octet for octet, by 401 if it gives another one, and by 400 if it gives none. -/
theorem login_answered_by_body (network : Backend.Network) {gateway : Gateway} {arrival : Arrival}
    (hlogin : IsLogin arrival.request)
    (hallowed : (gateway.counted arrival.now arrival.request.headers).1 = .allowed) :
    let body := arrival.request.body
    let status := (handle network gateway arrival).response.status
    (status = 200 ↔
      ∃ password, IsTextOf password body ∧ password.toUTF8 = gateway.config.password.toUTF8) ∧
    (status = 401 ↔
      ∃ password, IsTextOf password body ∧ password.toUTF8 ≠ gateway.config.password.toUTF8) ∧
    (status = 400 ↔ ∀ password, ¬ IsTextOf password body) := by
  intro body status
  have hstatus : status = (outcome (gateway.login arrival.now arrival.request.headers body).1).status := by
    rw [← congrArg (·.response.status) (inner_of_isLogin hlogin)]
    exact status_handle
  have hsame (password : String) :
      password.toUTF8 = gateway.config.password.toUTF8 ↔ password = gateway.config.password :=
    String.toByteArray_inj
  simp only [ne_eq, hsame, ← givenPassword?_eq_some_iff, hstatus]
  have hcases := gateway.login_cases arrival.now arrival.request.headers body
  generalize gateway.login arrival.now arrival.request.headers body = ended at hcases
  clear_value body
  cases hcases with
  | limited hlimited =>
    rw [hallowed] at hlimited
    cases hlimited
  | malformed _ hnone =>
    simp only [hnone, reduceCtorEq, false_and, exists_false, not_false_eq_true, implies_true, iff_false,
      iff_true]
    exact ⟨by rintro ⟨⟩, by rintro ⟨⟩, rfl⟩
  | mismatched _ hgiven hmatch =>
    simp only [hgiven, Option.some.injEq, exists_eq_left', hmatch, not_false_eq_true, iff_false, iff_true]
    refine ⟨by rintro ⟨⟩, rfl, iff_of_false (by rintro ⟨⟩) fun hnone => hnone _ rfl⟩
  | matched _ hgiven =>
    simp only [hgiven, Option.some.injEq, exists_eq_left', not_true_eq_false, iff_false, iff_true]
    refine ⟨rfl, by rintro ⟨⟩, iff_of_false (by rintro ⟨⟩) fun hnone => hnone _ rfl⟩

/-- The body stands for a password, with escapes, beside a member whose string stands for no text. -/
def disguised : Body :=
  ⟨"\n\x7b\"a\":[-1.5e3,\x7b\"\":\"\\udc00\"\x7d],\"pass\\u0077ord\" : \"\\u0070\"\x7d".toUTF8, true⟩

theorem disguised_password_accepted :
    (handle (fun _ _ => .refused) small
        ⟨.zero, .ofText "", { smallLogin with body := disguised }⟩).response.status =
      200 := by
  have hgives : IsTextOf "p" disguised :=
    ⟨rfl, by decide, Login.Body.password?_eq_some_iff.mp (by decide +kernel)⟩
  exact (login_answered_by_body (fun _ _ => .refused) ⟨rfl, rfl⟩ (by decide +kernel)).1.mpr
    ⟨"p", hgives, rfl⟩

/-- A list of just the password is accepted too, though it is no object. -/
theorem list_accepted :
    ¬ ∀ (network : Backend.Network) (gateway : Gateway) (arrival : Arrival), IsLogin arrival.request →
      (gateway.counted arrival.now arrival.request.headers).1 = .allowed →
      (handle network gateway arrival).response.status = 200 →
        ∃ members, (Login.Value.object members).Writes arrival.request.body.content.data.toList := by
  intro h
  let arrival : Arrival :=
    ⟨.zero, .ofText "", { smallLogin with body := ⟨"[\"p\"]".toUTF8, true⟩ }⟩
  obtain ⟨members, hwrites⟩ := h (fun _ _ => .refused) small arrival ⟨rfl, rfl⟩ (by decide +kernel)
    (by decide +kernel)
  have hscan : Login.Lexeme.scan? arrival.request.body.content.data.toList =
      some (Login.Value.list [.string [112]]).lexemes := by
    decide +kernel
  -- the lexemes begin with the bracket of a list
  have hlexemes := Option.some.inj (hscan.symm.trans (Login.Value.writes_iff.mp hwrites))
  obtain _ | ⟨⟨name, v⟩, members⟩ := members <;> cases hlexemes

end LoginGateway.Gateway
