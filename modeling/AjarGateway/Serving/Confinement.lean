import AjarGateway.Serving.Reference

/-
  Where an upstream request is sent.

  The upstream URI is put together as text and parsed again.
  The text of a request target keeps the end of the origin
  authority in place when it starts with a slash or with a
  question mark; the asterisk of an asterisk-form does not.

  Key definitions include:
    * `Serving.Confined`

  Key theorems include:
    * `Serving.upstreamUri_parts`
    * `Serving.confined_iff`
-/

------------------------------------------------------------
-- The Parts Of The Upstream URI
------------------------------------------------------------

namespace AjarGateway

namespace Serving

open Http

/-
  An upstream request goes to the configured origin, under
  the path and query of the incoming request.
-/
structure Confined
    (valid : ValidatedConfig)
    (request : Request Chunks)
    (upstream : Request Limited) : Prop where
  scheme : upstream.uri.schemeStr = some "http"
  authority :
    upstream.uri.authority? = some valid.originAuthority
  target :
    upstream.uri.pathAndQuery =
      some (requestTarget request.uri)

/- The text before the first colon is unique. -/
theorem append_colon_inj
    {before before' after after' : List Char}
    (hBefore : ':' ∉ before)
    (hBefore' : ':' ∉ before')
    (hEq : before ++ ':' :: after = before' ++ ':' :: after') :
    before = before' ∧ after = after' := by
  rcases List.append_eq_append_iff.mp hEq with
    ⟨middle, rfl, hAfter⟩ | ⟨middle, rfl, hAfter⟩
  · cases middle with
    | nil => simpa using hAfter
    | cons c middle =>
        cases hAfter
        exact absurd (by simp) hBefore'
  · cases middle with
    | nil => simpa [eq_comm] using hAfter
    | cons c middle =>
        cases hAfter
        exact absurd (by simp) hBefore

variable {lib : Externals} {config : GatewayConfig}
variable {valid : ValidatedConfig}

/- Nothing in a configured authority ends it. -/
theorem originAuthority_plain
    (hTakes : lib.http.TakesAuthority)
    (hValid : config.validate lib.http = .ok valid) :
    ∀ c ∈ valid.originAuthority.toList,
      endsAuthority c = false := by
  rcases GatewayConfig.validate_ok _ _ _ hValid with
    ⟨_, ⟨target, hUri⟩, _⟩
  rcases hTakes.parts _ _ _ _ hUri with
    ⟨_, rest, _, _, hAuthority, _⟩
  intro c hc
  rw [hAuthority, String.toList_ofList] at hc
  simpa using List.mem_takeWhile_imp hc

/-
  The authority of a parsed upstream URI is the configured
  one with the part of the request target that does not end
  it; the target is the remaining part.
-/
theorem upstreamUri_parts
    {uri upstream : Uri}
    (hTakes : lib.http.TakesAuthority)
    (hValid : config.validate lib.http = .ok valid)
    (hParse :
      lib.http.uriFromStr (upstreamUriText valid uri) =
        some upstream) :
    ∃ target,
      upstream =
          .absolute "http"
            (String.ofList
              (valid.originAuthority.toList ++
                (requestTarget uri).toList.takeWhile
                  (!endsAuthority ·)))
            target ∧
        target.text =
          targetText
            ((requestTarget uri).toList.dropWhile
              (!endsAuthority ·)) := by
  have hScheme :=
    (GatewayConfig.validate_ok _ _ _ hValid).1
  have hPlain : ∀ c ∈ valid.originAuthority.toList,
      (!endsAuthority c) = true := by
    intro c hc
    rw [originAuthority_plain hTakes hValid c hc]
    rfl
  have hText :
      (upstreamUriText valid uri).toList =
        "http://".toList ++
          (valid.originAuthority.toList ++
            (requestTarget uri).toList) := by
    simp [upstreamUriText, hScheme]
  rcases hTakes.scheme _ _ _ hText hParse with
    ⟨authority, target, rfl⟩
  rcases hTakes.parts _ _ _ _ hParse with
    ⟨before, rest, hBefore, hSplit, rfl, hTarget⟩
  -- The first colon of the text is the one of the scheme.
  rw [hText] at hSplit
  have hColon :
      "http".toList ++
          ':' :: ("//".toList ++
            (valid.originAuthority.toList ++
              (requestTarget uri).toList)) =
        before ++ ':' :: ("//".toList ++ rest) := by
    simpa using hSplit
  have hRest :=
    (append_colon_inj (by decide) hBefore hColon).2
  rw [List.append_cancel_left_eq] at hRest
  rw [← hRest] at hTarget ⊢
  rw [List.dropWhile_append_of_pos hPlain] at hTarget
  rw [List.takeWhile_append_of_pos hPlain]
  exact ⟨target, rfl, hTarget⟩

/- All targets but the asterisk keep the authority apart. -/
theorem requestTarget_starts
    {uri : Uri}
    (hUri : uri ≠ .asterisk) :
    ∃ c rest,
      (requestTarget uri).toList = c :: rest ∧
        endsAuthority c = true ∧
          '#' ∉ (requestTarget uri).toList := by
  have hStarts (target : PathAndQuery) :
      ∃ c rest,
        target.text.toList = c :: rest ∧
          endsAuthority c = true := by
    rcases target.starts with hSlash | hQuery
    · rcases List.head?_eq_some_iff.mp hSlash with
        ⟨rest, hText⟩
      exact ⟨_, rest, hText, by decide⟩
    · rcases List.head?_eq_some_iff.mp hQuery with
        ⟨rest, hText⟩
      exact ⟨_, rest, hText, by decide⟩
  cases uri with
  | origin target =>
      rcases hStarts target with ⟨c, rest, hText, hEnds⟩
      exact ⟨c, rest, hText, hEnds, target.noFragment⟩
  | absolute scheme authority target =>
      rcases hStarts target with ⟨c, rest, hText, hEnds⟩
      exact ⟨c, rest, hText, hEnds, target.noFragment⟩
  | authority authority =>
      have hSlash :
          (requestTarget (.authority authority)).toList =
            ['/'] := by
        show "/".toList = ['/']
        decide
      exact ⟨'/', [], hSlash, by decide,
        by rw [hSlash]; decide⟩
  | asterisk => exact absurd rfl hUri

theorem targetText_of_noFragment
    {c : Char} {rest : List Char}
    (hNone : '#' ∉ c :: rest) :
    targetText (c :: rest) = String.ofList (c :: rest) := by
  have hKept :
      (c :: rest).takeWhile (· ≠ '#') = c :: rest := by
    rw [List.takeWhile_eq_self_iff]
    intro other hOther
    simpa using fun hEq : other = '#' => hNone (hEq ▸ hOther)
  rw [targetText, hKept]
  rfl

end Serving

end AjarGateway

------------------------------------------------------------
-- Confinement To The Origin
------------------------------------------------------------

namespace AjarGateway

namespace Serving

open Http

variable {lib : Externals} {config : GatewayConfig}
variable {valid : ValidatedConfig}
variable {request : Request Chunks}
variable {upstream : Request Limited}

/- An asterisk becomes part of the authority. -/
theorem upstream_of_asterisk
    (hTakes : lib.http.TakesAuthority)
    (hValid : config.validate lib.http = .ok valid)
    (hBuild :
      buildUpstreamRequest lib valid request = .ok upstream)
    (hUri : request.uri = .asterisk) :
    upstream.uri.authority? =
      some (valid.originAuthority ++ "*") := by
  rcases (buildUpstreamRequest_ok_iff _ _ _ _).mp hBuild with
    ⟨_, uri, _, _, hParse, rfl⟩
  rcases upstreamUri_parts hTakes hValid hParse with
    ⟨target, rfl, _⟩
  rw [hUri]
  show some (String.ofList
    (valid.originAuthority.toList ++ ['*'])) = _
  rw [String.ofList_append, String.ofList_toList]

/-
  For every accepted configuration and every request whose
  upstream request is built, it is confined to the origin
  exactly when the request target is not the asterisk.
-/
theorem confined_iff
    (hTakes : lib.http.TakesAuthority)
    (hValid : config.validate lib.http = .ok valid)
    (hBuild :
      buildUpstreamRequest lib valid request =
        .ok upstream) :
    Confined valid request upstream ↔
      request.uri ≠ .asterisk := by
  constructor
  · intro hConfined hUri
    have hAuthority :=
      upstream_of_asterisk hTakes hValid hBuild hUri
    rw [hConfined.authority, Option.some.injEq] at hAuthority
    simpa using congrArg String.length hAuthority
  · intro hUri
    rcases (buildUpstreamRequest_ok_iff _ _ _ _).mp hBuild
      with ⟨_, uri, _, _, hParse, rfl⟩
    rcases upstreamUri_parts hTakes hValid hParse with
      ⟨target, rfl, hTarget⟩
    rcases requestTarget_starts hUri with
      ⟨c, rest, hText, hEnds, hNone⟩
    rw [hText] at hTarget hNone
    have hTaken :
        (requestTarget request.uri).toList.takeWhile
            (!endsAuthority ·) =
          [] := by
      rw [hText, List.takeWhile_cons_of_neg (by simp [hEnds])]
    rw [List.dropWhile_cons_of_neg (by simp [hEnds]),
      targetText_of_noFragment hNone, ← hText,
      String.ofList_toList] at hTarget
    refine ⟨rfl, ?_, congrArg some hTarget⟩
    rw [hTaken, List.append_nil, String.ofList_toList]
    rfl

/- A page request reaches the sample origin. -/
theorem confined_iff_sample :
    ∃ upstream,
      buildUpstreamRequest sampleExt sampleValid
          (getRequest pageTarget .empty) =
        .ok upstream ∧
      Confined sampleValid (getRequest pageTarget .empty)
        upstream := by
  rcases sample_builds (getRequest pageTarget .empty) rfl
    with ⟨upstream, hBuild⟩
  refine ⟨upstream, hBuild, ?_⟩
  apply (confined_iff reference_takesAuthority
    sample_validate hBuild).mpr
  simp [getRequest, pageTarget]

/- A request for the asterisk. -/
def asteriskRequest : Request Chunks where
  method := .options
  uri := .asterisk
  headers := .empty
  body := []

/- It is sent to the authority `127.0.0.1:3000*`. -/
theorem confined_asterisk :
    sampleConfig.validate sampleExt.http =
        .ok sampleValid ∧
      ∃ upstream,
        buildUpstreamRequest sampleExt sampleValid
            asteriskRequest =
          .ok upstream ∧
        upstream.uri.authority? =
            some "127.0.0.1:3000*" ∧
          ¬ Confined sampleValid asteriskRequest
            upstream := by
  rcases sample_builds asteriskRequest rfl with
    ⟨upstream, hBuild⟩
  have hAuthority :=
    upstream_of_asterisk reference_takesAuthority
      sample_validate hBuild rfl
  refine ⟨sample_validate, upstream, hBuild, hAuthority, ?_⟩
  intro hConfined
  rw [hConfined.authority] at hAuthority
  revert hAuthority
  decide

end Serving

end AjarGateway
