import DisplayClient.Proofs.Opcode.Reordering
import DisplayClient.Proofs.Session.Instantiation
import DisplayClient.Proofs.Session.TableHistory
import DisplayClient.Proofs.Session.Transcript

/-!
# Extensions may be resolved in any order

What an extension brings into the tables is said by the registry and by the
server's answer (`Registry.insertion?`), and by nothing that was resolved
before it (`Session.insertion?_resolutions`). Therefore two runs that resolve
the same extensions bring the same insertions, in some order, and if these give
no slot two types, the tables come out the same
(`Session.resolution_order_immaterial`).
-/

namespace DisplayClient

/-- What the extension with a key brings into the tables, if the server answers with
`presence`. -/
def Registry.insertion? (registry : Registry) (presence : ExtensionKey → Presence)
    (key : ExtensionKey) : Option Insertion :=
  (registry.find? key).map fun registration =>
    ⟨(presence key).firstEvent, registration.events, (presence key).firstError,
      registration.errors⟩

/-- What a script answers about extensions. -/
def Script.presenceFor (server : Script) (key : ExtensionKey) : Presence :=
  server.presence (key.name?.getD "")

namespace Session

section Answers

variable {σ : Type} [Transport σ] {s : Session σ} {presence : ExtensionKey → Presence}

/-- If the server is asked for the extension that an action is about, then it answers with
`presence`, or does not answer. -/
def AnswersBy (presence : ExtensionKey → Presence) (s : Session σ) (a : Action σ) : Prop :=
  ∀ key ∈ a.asks?, key ≠ .core → ∀ answer,
    (Transport.presenceOf key s.server).1 = .ok answer → answer = presence key

/-- So it does throughout a run. -/
def AnswersRunBy (presence : ExtensionKey → Presence) (s : Session σ) : List (Action σ) → Prop
  | [] => True
  | a :: actions => s.AnswersBy presence a ∧ (a.after s).AnswersRunBy presence actions

/-- The extensions that a run resolves, in order. -/
def resolved (s : Session σ) (actions : List (Action σ)) : List ExtensionKey :=
  (s.resolutions [] actions).map Prod.fst

/-- What they bring into the tables, in order. -/
def insertions (s : Session σ) (actions : List (Action σ)) : List Insertion :=
  (s.resolutions [] actions).map Prod.snd

/-- An extension that was not known has the bases that the server answers with. -/
theorem Resolves.bases_eq {key : ExtensionKey} {registration : Registration} {e : Extension}
    (h : s.Resolves key registration e) :
    ∃ answer, (Transport.presenceOf key s.server).1 = .ok answer ∧
      e.firstEvent = answer.firstEvent ∧ e.firstError = answer.firstError := by
  obtain ⟨outcome, hends, houtcome⟩ := extension_ends h.isConnected key
  have hresult : outcome.result = .ok e := by
    rw [← h.result_eq, houtcome]
  cases hends with
  | settled result hsettled =>
    rw [h.unsettled] at hsettled
    cases hsettled
  | unknown | unanswered | absent | crowded => cases hresult
  | resolved registration answer server' lines lines' hasks hquery =>
    cases hresult
    exact ⟨answer, congrArg Prod.fst (presenceOf_of_query hquery), rfl, rfl⟩

theorem insertion?_of_resolution? {answered : List ExtensionKey} (htracks : s.Tracks answered)
    {a : Action σ} {r : ExtensionKey × Insertion} (hanswers : s.AnswersBy presence a)
    (h : s.resolution? answered a = some r) : s.registry.insertion? presence r.1 = some r.2 := by
  cases a with
  | extension key =>
    rcases s.resolves_or_keeps key with ⟨registration, e, hresolves⟩ | hkeeps
    · obtain ⟨answer, hanswer, hfirstEvent, hfirstError⟩ := hresolves.bases_eq
      have hpresence : answer = presence key :=
        hanswers key rfl hresolves.key_ne answer hanswer
      rw [(resolution?_of_resolves htracks hresolves).2, hfirstEvent, hfirstError, hpresence] at h
      cases h
      rw [Registry.insertion?, hresolves.registered]
      rfl
    · rw [resolution?_of_keeps htracks hkeeps] at h
      cases h
  | _ => cases h

theorem insertion?_after {key : ExtensionKey} {i : Insertion} (a : Action σ)
    (h : s.registry.insertion? presence key = some i) :
    (a.after s).registry.insertion? presence key = some i := by
  rw [Registry.insertion?, Option.map_eq_some_iff] at h ⊢
  obtain ⟨registration, hfound, hi⟩ := h
  exact ⟨registration, a.find?_registry_after hfound, hi⟩

/-- Every extension brings what its registration and the server's answer say, whatever came before
it. What is registered when it is resolved still is at the end of the run. -/
theorem insertion?_resolutions (actions : List (Action σ)) {answered : List ExtensionKey}
    (htracks : s.Tracks answered) (hanswers : s.AnswersRunBy presence actions) :
    ∀ r ∈ s.resolutions answered actions,
      (s.run actions).registry.insertion? presence r.1 = some r.2 := by
  induction actions generalizing s answered with
  | nil => exact fun r hr => absurd hr List.not_mem_nil
  | cons a actions ih =>
    intro r hr
    obtain ⟨hfirst, hrest⟩ := hanswers
    rw [resolutions] at hr
    rcases resolution?_cases htracks a with ⟨hnone, htracks', -⟩ |
      ⟨key, i, hsome, -, -, htracks', -⟩
    · rw [hnone] at hr
      exact ih htracks' hrest r hr
    · rw [hsome] at hr
      rcases List.mem_cons.mp hr with rfl | hr
      · have hinsertion := insertion?_after a (insertion?_of_resolution? htracks hfirst hsome)
        exact run_keeps (P := fun s => s.registry.insertion? presence key = some i)
          (fun a _ hs => insertion?_after a hs) hinsertion actions
      · exact ih htracks' hrest r hr

theorem nodup_resolved {opening : Opening σ} {server : σ} (h : opening.Opens server s)
    (actions : List (Action σ)) : (s.resolved actions).Nodup :=
  (nodup_resolutions actions (tracks_of_opens h)).1

theorem presence_extension (key : ExtensionKey) (s : Session Script) :
    (extension key s).state.server.presence = s.server.presence := by
  rcases server_extension key s with h | h <;> rw [h]
  rfl

/-- Questions alone do not change what a script answers. -/
theorem answersRunBy_of_questions (s : Session Script) (keys : List ExtensionKey) :
    s.AnswersRunBy s.server.presenceFor (keys.map .extension) := by
  induction keys generalizing s with
  | nil => trivial
  | cons key keys ih =>
    refine ⟨fun key' hkey' _ answer hanswer => ?_, ?_⟩
    · cases hkey'
      cases hanswer
      rfl
    · have hsame : (extension key s).state.server.presenceFor = s.server.presenceFor :=
        funext fun key' => congrFun (presence_extension key s) _
      rw [← hsame]
      exact ih _

theorem tables_run {opening : Opening σ} {server : σ} (h : opening.Opens server s)
    (actions : List (Action σ)) : (s.run actions).connection.resolver.tables =
      Insertion.applyAll (s.insertions actions) (Insertion.replay s.registry.coreInsertions) := by
  rw [(run_history actions (tracks_of_opens h)).1, h.connection_eq.2,
    Registry.replay_coreInsertions]
  rfl

/-- The keys of what a run resolves say what it brings into the tables. -/
theorem insertions_eq {opening : Opening σ} {server : σ} (h : opening.Opens server s)
    {actions : List (Action σ)} (hanswers : s.AnswersRunBy presence actions) :
    s.insertions actions =
      (s.resolved actions).filterMap ((s.run actions).registry.insertion? presence) := by
  have hall := insertion?_resolutions actions (tracks_of_opens h) hanswers
  rw [insertions, resolved, List.filterMap_map, ← List.filterMap_eq_map]
  exact List.filterMap_congr fun r hr => (hall r hr).symm

end Answers

variable {σ τ : Type} [Transport σ] [Transport τ]

/-- Two runs on connections that were just opened have the same registry and the same answers about
extensions, as far as they make use of them: it does not matter what is registered for other keys,
or when. -/
structure SharesSetting (opened : Session σ) (actions : List (Action σ)) (opened' : Session τ)
    (actions' : List (Action τ)) (presence : ExtensionKey → Presence) : Prop where
  core_eq : opened.registry.find? .core = opened'.registry.find? .core
  registered_eq : ∀ key ∈ opened.resolved actions,
    (opened.run actions).registry.find? key = (opened'.run actions').registry.find? key
  answers : opened.AnswersRunBy presence actions
  answers' : opened'.AnswersRunBy presence actions'

theorem insertions_perm {opening : Opening σ} {server : σ} {opened : Session σ}
    {actions : List (Action σ)} {opening' : Opening τ} {server' : τ} {opened' : Session τ}
    {actions' : List (Action τ)} {presence : ExtensionKey → Presence}
    (hopening : opening.Opens server opened) (hopening' : opening'.Opens server' opened')
    (hsetting : opened.SharesSetting actions opened' actions' presence)
    (hkeys : ∀ key, key ∈ opened.resolved actions ↔ key ∈ opened'.resolved actions') :
    (opened.insertions actions).Perm (opened'.insertions actions') := by
  have hperm : (opened.resolved actions).Perm (opened'.resolved actions') :=
    (List.perm_ext_iff_of_nodup (nodup_resolved hopening actions)
      (nodup_resolved hopening' actions')).mpr hkeys
  rw [insertions_eq hopening hsetting.answers, insertions_eq hopening' hsetting.answers']
  have hinsertion : ∀ key ∈ opened.resolved actions,
      (opened.run actions).registry.insertion? presence key =
        (opened'.run actions').registry.insertion? presence key := by
    intro key hkey
    rw [Registry.insertion?, hsetting.registered_eq key hkey, Registry.insertion?]
  rw [List.filterMap_congr hinsertion]
  exact hperm.filterMap _

open Insertion (Alike Compatible applyAll answers)

/-- Insertions that give no slot two types leave the same tables in any order, however their lists
are ordered, and the same of them succeed, whatever the tables held before. So do connections that
resolve the same extensions, over the same registry and with the same answers from their servers. -/
theorem resolution_order_immaterial :
    (∀ (insertions insertions' : List Insertion) (tables : OpcodeTables),
      Compatible insertions → ReorderedBy Alike insertions insertions' →
      applyAll insertions' tables = applyAll insertions tables ∧
      ReorderedBy (fun a b => Alike a.1 b.1 ∧ a.2 = b.2) (answers insertions tables)
        (answers insertions' tables)) ∧
    ∀ {σ τ : Type} [Transport σ] [Transport τ] (opening : Opening σ) (server : σ)
      (opened : Session σ) (actions : List (Action σ)) (opening' : Opening τ) (server' : τ)
      (opened' : Session τ) (actions' : List (Action τ)) (presence : ExtensionKey → Presence),
      opening.Opens server opened → opening'.Opens server' opened' →
      opened.SharesSetting actions opened' actions' presence →
      (∀ key, key ∈ opened.resolved actions ↔ key ∈ opened'.resolved actions') →
      Compatible (opened.insertions actions) →
      (opened'.run actions').connection.resolver.tables =
        (opened.run actions).connection.resolver.tables := by
  refine ⟨fun insertions insertions' tables hcompatible hreordered =>
    ⟨Insertion.applyAll_reordered hcompatible hreordered tables,
      Insertion.answers_reordered hreordered tables⟩, ?_⟩
  intro σ τ _ _ opening server opened actions opening' server' opened' actions' presence
    hopening hopening' hsetting hkeys hcompatible
  have hperm := insertions_perm hopening hopening' hsetting hkeys
  have hcore : opened.registry.coreInsertions = opened'.registry.coreInsertions := by
    rw [Registry.coreInsertions, hsetting.core_eq, Registry.coreInsertions]
  rw [tables_run hopening actions, tables_run hopening' actions', hcore]
  exact Insertion.applyAll_reordered hcompatible (.of_perm Alike.refl hperm) _

/-- Of three insertions, two agree on a slot, and one does not fit; a slot that they write was taken
before. Two connections resolve two extensions that agree on a slot. -/
theorem resolution_order_immaterial_of_agreeing :
    let alpha : Declaration := ⟨0, .named "Alpha"⟩
    let beta : Declaration := ⟨1, .named "Beta"⟩
    let gamma : Declaration := ⟨10, .named "Gamma"⟩
    let tables := OpcodeTables.empty.place 64 [⟨0, .named "Stale"⟩] 0 []
    let first : Insertion := ⟨64, [alpha, beta], 130, [alpha]⟩
    let agreeing : Insertion := ⟨65, [⟨0, .named "Beta"⟩, gamma], 131, []⟩
    let crowded : Insertion := ⟨250, [gamma], 140, [beta]⟩
    let reordered : List Insertion := [crowded, agreeing, ⟨64, [beta, alpha], 130, [alpha]⟩]
    let randr : ExtensionKey := .named "RANDR"
    let damage : ExtensionKey := .named "DAMAGE"
    let registry := (Registry.empty.insert randr ⟨.named "ExtA", [alpha, beta], [alpha]⟩).insert
      damage ⟨.named "ExtB", [⟨0, .named "Beta"⟩], []⟩
    let server := (Script.empty.scriptPresence "RANDR" ⟨true, 140, 89, 147⟩).scriptPresence
      "DAMAGE" ⟨true, 143, 90, 152⟩
    let opened : Session Script := ⟨registry, ⟨true, 0, .empty⟩, server⟩
    let tablesAfter (keys : List ExtensionKey) :=
      (opened.run (keys.map .extension)).connection.resolver.tables
    applyAll reordered tables = applyAll [first, agreeing, crowded] tables ∧
      (applyAll reordered tables).events.get? 64 = some alpha.type ∧
      (answers reordered tables).map (fun a => a.2.isOk) = [false, true, true] ∧
      tablesAfter [damage, randr] = tablesAfter [randr, damage] ∧
      (tablesAfter [randr, damage]).events.get? 90 = some beta.type := by
  intro alpha beta gamma tables first agreeing crowded reordered randr damage registry server opened
    tablesAfter
  obtain ⟨hinsertions, hruns⟩ := resolution_order_immaterial
  have hcompatible : Compatible [first, agreeing, crowded] := ⟨by decide, by decide⟩
  have hreordered : ReorderedBy Alike [first, agreeing, crowded] reordered :=
    ⟨[crowded, agreeing, first], (List.reverse_perm [first, agreeing, crowded]).symm,
      .cons (.refl _) (.cons (.refl _) (.cons ⟨rfl, rfl, .swap .., .refl _⟩ .nil))⟩
  have hopening : (Opening.wrap 0).Opens server opened := ⟨_, rfl⟩
  have hsetting : opened.SharesSetting ([randr, damage].map .extension) opened
      ([damage, randr].map .extension) server.presenceFor :=
    { core_eq := rfl
      registered_eq := fun _ _ => by rw [registry_run, registry_run]; rfl
      answers := answersRunBy_of_questions opened _
      answers' := answersRunBy_of_questions opened _ }
  have hresolved : opened.resolved ([randr, damage].map .extension) = [randr, damage] := by
    decide +kernel
  have hresolved' : opened.resolved ([damage, randr].map .extension) = [damage, randr] := by
    decide +kernel
  have hbrought : opened.insertions ([randr, damage].map .extension) =
      [⟨89, [alpha, beta], 147, [alpha]⟩, ⟨90, [⟨0, .named "Beta"⟩], 152, []⟩] := by
    decide +kernel
  refine ⟨(hinsertions _ _ tables hcompatible hreordered).1, by decide +kernel, by decide +kernel,
    hruns (.wrap 0) server opened _ (.wrap 0) server opened _ _ hopening hopening hsetting ?_ ?_,
    by decide +kernel⟩
  · rw [hresolved, hresolved']
    simp [or_comm]
  · rw [hbrought]
    exact ⟨by decide, by decide⟩

end Session

end DisplayClient
