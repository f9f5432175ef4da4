import LoginGateway.Proofs.Config
import LoginGateway.Proofs.Text.Quoted
import LoginGateway.Startup

namespace LoginGateway

namespace Url

def password? (url : Url) : Option String := url.authority.bind Authority.password

/-- The same URL with another password in it, if it can have one at all. -/
def withPassword (password : Option String) (url : Url) : Url :=
  { url with authority := url.authority.map fun a => { a with password } }

namespace Authority

variable {a : Authority} {p q : Option String}

theorem userinfo_inj :
    ({ a with password := p } : Authority).userinfo = { a with password := q }.userinfo ↔ p = q := by
  -- a name alone ends with `@` where a password begins with a colon
  have hbare (text : String) :
      (if a.username = "" then "" else a.username ++ "@") ≠ a.username ++ ":" ++ text ++ "@" := by
    intro h
    rw [← String.toList_inj] at h
    by_cases hname : a.username = "" <;> simp [hname] at h
  cases p with
  | none =>
    cases q with
    | none => exact iff_of_true rfl rfl
    | some y => exact iff_of_false (hbare y) (by rintro ⟨⟩)
  | some x =>
    cases q with
    | none => exact iff_of_false (fun h => hbare x h.symm) (by rintro ⟨⟩)
    | some y =>
      simp only [userinfo, String.append_left_inj, String.append_right_inj, Option.some.injEq]

theorem text_inj :
    ({ a with password := p } : Authority).text = { a with password := q }.text ↔ p = q := by
  simp only [text, hostText, portText, String.append_left_inj, userinfo_inj]

end Authority

variable (url : Url) (p q : Option String)

theorem withPassword_password? : url.withPassword url.password? = url := by
  obtain ⟨scheme, authority, path, query, fragment⟩ := url
  cases authority <;> rfl

theorem render_withPassword_inj :
    (url.withPassword p).render = (url.withPassword q).render ↔
      (url.withPassword p).password? = (url.withPassword q).password? := by
  obtain ⟨scheme, authority, path, query, fragment⟩ := url
  cases authority with
  | none => exact iff_of_true rfl rfl
  | some a =>
    simp only [withPassword, password?, render, pathGuard, target, Option.map_some, Option.getD_some,
      Option.bind_some, String.append_left_inj, String.append_right_inj, Authority.text_inj]

end Url

namespace Config

def withCredentials (config : Config) (password sessionSecret backendSecret : String)
    (urlPassword : Option String) : Config :=
  { config with
    password, sessionSecret, backendSecret, backendUrl := config.backendUrl.withPassword urlPassword }

theorem text_inj {config other : Config} (hage : config.sessionMaxAge = other.sessionMaxAge)
    (hsecure : config.cookieSecure = other.cookieSecure) (hattempts : config.attempts = other.attempts)
    (hpath : config.pathPrefix = other.pathPrefix) (hheader : config.secretHeader = other.secretHeader)
    (htimeout : config.backendTimeout = other.backendTimeout) :
    config.text = other.text ↔ config.backendUrl.render = other.backendUrl.render := by
  unfold text
  simp only [hage, hsecure, hattempts, hpath, hheader, htimeout, String.append_left_inj,
    String.append_right_inj, Text.Quoted.quote_inj]

end Config

namespace Startup

theorem report_inj (before : List (String × String)) {after : List (String × String)}
    {key value other : String} {commit? : Option Build.Commit} :
    report (before ++ (key, value) :: after) commit? = report (before ++ (key, other) :: after) commit? ↔
      value = other := by
  have hwidth : widest (before ++ (key, value) :: after) = widest (before ++ (key, other) :: after) := by
    simp only [widest, List.map_append, List.map_cons]
  simp only [report, hwidth, List.map_append, List.map_cons, String.join_append, String.join_cons, line,
    String.append_left_inj, String.append_right_inj]

/-- Settings with other credentials are printed as before exactly if the password in the backend's URL
is the same one, both as settings and in the message at the start. The password for logins and the two
secrets make no difference. -/
theorem printed_alike_iff (port : UInt16) (config : Config) (password sessionSecret backendSecret : String)
    (urlPassword : Option String) (commit? : Option Build.Commit) :
    let other := config.withCredentials password sessionSecret backendSecret urlPassword
    (other.text = config.text ↔ other.backendUrl.password? = config.backendUrl.password?) ∧
      (report (entries port other) commit? = report (entries port config) commit? ↔
        other.backendUrl.password? = config.backendUrl.password?) := by
  intro other
  have hrender : other.backendUrl.render = config.backendUrl.render ↔
      other.backendUrl.password? = config.backendUrl.password? := by
    have hpair := config.backendUrl.render_withPassword_inj urlPassword config.backendUrl.password?
    rwa [Url.withPassword_password?] at hpair
  constructor
  · rw [← hrender]
    exact Config.text_inj rfl rfl rfl rfl rfl rfl
  · rw [← hrender]
    exact report_inj [("listen", "tcp:" ++ Text.Numeral.text port.toNat)]

def named : Config :=
  { Config.small with
    backendUrl := ⟨"http", some ⟨"u", some "p", some (.name "h"), none⟩, .rooted [""], none, none⟩ }

/-- The text of its settings is another one without that password. -/
theorem not_printed_alike_of_named :
    ¬ ∀ (port : UInt16) (config : Config) (password sessionSecret backendSecret : String)
      (urlPassword : Option String),
      let other := config.withCredentials password sessionSecret backendSecret urlPassword
      other.text = config.text ∧ report (entries port other) = report (entries port config) := by
  intro h
  have hiff : (named.withCredentials "p" "s" "b" none).text = named.text ↔
      (named.withCredentials "p" "s" "b" none).backendUrl.render = named.backendUrl.render :=
    Config.text_inj rfl rfl rfl rfl rfl rfl
  exact absurd (hiff.mp (h 8080 named "p" "s" "b" none).1) (by decide +kernel)

end Startup

end LoginGateway
