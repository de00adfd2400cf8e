import HomePortal.Http.Script
import HomePortal.Proofs.Http.Address
import HomePortal.Proofs.Hub.Operation
import HomePortal.Proofs.Hub.Rest
/-!
Where a server is asked for a config. Each id has a path of its own below that of all configs, but
for the ids `.` and `..`, which are followed as folders and lead out of it.
-/

namespace HomePortal

open Http (Line Script Server)
open HubM (Sends)

namespace RestHub

variable {σ : Type} {h : RestHub} {id id' base token : String} {limit : Int} {ownsLine : Bool}
  {r : Http.Request} {c : Char}

/-! ### The path of an id -/

def segment (id : String) : List Char :=
  Percent.encode Percent.isUnreserved id.toList

def sentPath (id : String) : List Char :=
  Address.plainPath (configRoot.toList ++ segment id)

/-- Below the path of all configs, one part that stands for an id. -/
def IsEndpoint (id path : String) : Prop :=
  ∃ part : List Char, path.toList = configRoot.toList ++ part ∧ part ≠ [] ∧ '/' ∉ part ∧
    (Percent.decode part).toByteArray = id.toByteArray

theorem segment_injective (heq : segment id = segment id') : id = id' :=
  Percent.encode_injective (by decide) heq

/-- What is encoded stands in a path as it is, and does not end a part of it. -/
theorem of_mem_segment (hc : c ∈ segment id) :
    Address.inPath c = true ∧ (c != '?' && c != '#') = true ∧ c ≠ '/' := by
  have hcases : Percent.isUnreserved c = true ∨ c = '%' := by
    obtain hkept | hpercent | halnum := Percent.mem_encode hc
    · exact .inl hkept
    · exact .inr hpercent
    · exact .inl (by simp [Percent.isUnreserved, halnum])
  cases hcases with
  | inl hunreserved =>
    exact Text.forall_ascii (P := fun c => Percent.isUnreserved c = true →
      Address.inPath c = true ∧ (c != '?' && c != '#') = true ∧ c ≠ '/') (by decide)
      (Percent.toNat_lt_of_isUnreserved hunreserved) hunreserved
  | inr hpercent =>
    rw [hpercent]
    decide

theorem slash_not_mem_segment (id : String) : '/' ∉ segment id :=
  fun hslash => (of_mem_segment hslash).2.2 rfl

/-- Ids that are followed where a path is read. -/
def IsFollowed (id : String) : Prop :=
  id = "." ∨ id = ".."

theorem length_sentPath_lt (hid : IsFollowed id) :
    (sentPath id).length < configRoot.toList.length := by
  obtain rfl | rfl := hid
  · decide
  · decide

theorem sentPath_of_not_followed (hid : ¬IsFollowed id) :
    sentPath id = configRoot.toList ++ segment id := by
  have hdots : Address.isDots (segment id) = false := by
    refine Bool.or_eq_false_iff.2 ⟨?_, ?_⟩
    · exact beq_eq_false_iff_ne.2 fun heq => hid (.inl (segment_injective heq))
    · exact beq_eq_false_iff_ne.2 fun heq => hid (.inr (segment_injective heq))
  have hroot : configRoot.toList ++ segment id =
      "/api/config/automation/config".toList ++ '/' :: segment id := by
    change _ = _ ++ (['/'] ++ segment id)
    rw [← List.append_assoc]
    rfl
  rw [sentPath, hroot]
  exact Address.plainPath_append_of_plain (by decide) (slash_not_mem_segment id) hdots

/-- An id that is followed shares its path with no other id. -/
theorem sentPath_ne (hid : IsFollowed id) (hid' : ¬IsFollowed id') :
    sentPath id ≠ sentPath id' := by
  intro heq
  have hlt := length_sentPath_lt hid
  rw [heq, sentPath_of_not_followed hid', List.length_append] at hlt
  omega

theorem sentPath_injective (heq : sentPath id = sentPath id') : id = id' := by
  by_cases hid : IsFollowed id
  · by_cases hid' : IsFollowed id'
    · obtain rfl | rfl := hid
      · obtain rfl | rfl := hid'
        · rfl
        · exact absurd heq (by decide)
      · obtain rfl | rfl := hid'
        · exact absurd heq (by decide)
        · rfl
    · exact absurd heq (sentPath_ne hid hid')
  · by_cases hid' : IsFollowed id'
    · exact absurd heq.symm (sentPath_ne hid' hid)
    · rw [sentPath_of_not_followed hid, sentPath_of_not_followed hid'] at heq
      exact segment_injective (List.append_cancel_left heq)

theorem isEndpoint_sentPath_iff :
    IsEndpoint id (String.ofList (sentPath id)) ↔ id ≠ "" ∧ ¬IsFollowed id := by
  constructor
  · intro h
    obtain ⟨part, hpath, hne, -, -⟩ := h
    rw [String.toList_ofList] at hpath
    have hid : ¬IsFollowed id := by
      intro hid
      have hlt := length_sentPath_lt hid
      rw [hpath, List.length_append] at hlt
      omega
    refine ⟨?_, hid⟩
    rintro rfl
    rw [sentPath_of_not_followed hid] at hpath
    exact hne (List.append_cancel_left hpath).symm
  · intro h
    obtain ⟨hempty, hid⟩ := h
    refine ⟨segment id, ?_, ?_, slash_not_mem_segment id, ?_⟩
    · rw [String.toList_ofList, sentPath_of_not_followed hid]
    · exact fun heq => hempty (segment_injective heq)
    · exact Percent.toByteArray_decode_encode (by decide) id

/-- Nothing in the path is encoded once more. -/
theorem encode_sentPath (id : String) :
    Percent.encode Address.inPath (sentPath id) = sentPath id := by
  apply Percent.encode_eq_self
  by_cases hid : IsFollowed id
  · obtain rfl | rfl := hid
    · exact List.all_eq_true.1 (by decide)
    · exact List.all_eq_true.1 (by decide)
  · rw [sentPath_of_not_followed hid]
    exact List.forall_mem_append.2 ⟨List.all_eq_true.1 (by decide), fun c hc => (of_mem_segment hc).1⟩

theorem sentPath_starts (id : String) : ∃ rest, sentPath id = '/' :: 'a' :: rest := by
  by_cases hid : IsFollowed id
  · obtain rfl | rfl := hid
    · exact ⟨_, rfl⟩
    · exact ⟨_, rfl⟩
  · rw [sentPath_of_not_followed hid]
    exact ⟨_, rfl⟩

/-! ### Requests for a config -/

/-- A request for the config of an id. -/
def Addresses (h : RestHub) (id : String) (r : Http.Request) : Prop :=
  ∃ method body, h.request method (configPath id) body = .ok r

/-- What is below the address of a server is its path and nothing else. -/
theorem below_base (hbase : Address.IsBare base.toList) (id : String) :
    ∃ scheme authority, Address.IsServer scheme authority ∧
      (ofAddress base token limit ownsLine).base ++ configPath id = String.ofList
        (Address.serverText scheme authority ++ (configRoot.toList ++ segment id)) := by
  obtain ⟨scheme, authority, slashes, hserver, hslashes, htext⟩ := hbase
  refine ⟨scheme, authority, hserver, String.toList_inj.1 ?_⟩
  rw [ofAddress, htext, Address.dropSlashes_serverText hserver hslashes]
  simp only [configPath, segment, String.toList_append, String.toList_ofList]

theorem path_of_addresses (hbase : Address.IsBare base.toList)
    (hr : (ofAddress base token limit ownsLine).Addresses id r) :
    r.path = String.ofList (sentPath id) := by
  obtain ⟨method, body, hr⟩ := hr
  obtain ⟨scheme, authority, hserver, hurl⟩ := below_base hbase id
  obtain ⟨path, hpath⟩ : ∃ path, configRoot.toList ++ segment id = '/' :: path := ⟨_, rfl⟩
  obtain ⟨rest, hrest⟩ := sentPath_starts id
  have hstays : ∀ c ∈ '/' :: path, (c != '?' && c != '#') = true := by
    rw [← hpath]
    exact List.forall_mem_append.2 ⟨List.all_eq_true.1 (by decide), fun c hc => (of_mem_segment hc).2.1⟩
  have hsent : Percent.encode Address.inPath (Address.plainPath ('/' :: path)) =
      '/' :: 'a' :: rest := by
    rw [← hpath, ← hrest]
    exact encode_sentPath id
  have haddress := (request_eq_ok hr).2.2
  rw [hurl, hpath] at haddress
  rw [Http.Request.path, hrest, Address.target_of_ofText hserver (fun c hc => hstays c (.tail _ hc))
    hsent (by decide) haddress]

/-- Of what an operation on one config sends, the states apart, all is addressed to its id. -/
theorem sends_addresses (h : RestHub) (server : Server σ) {op : HubOperation}
    (hop : op.configId? = some id) (line : Line σ) :
    Sends Line.log (fun e => h.request .get statesPath none = .ok e.request ∨
      h.Addresses id e.request) (op.on (h.hub server)) line := by
  cases op with
  | list => cases hop
  | get id' =>
    obtain rfl := Option.some.inj hop
    refine Sends.bind (Sends.bind ?_ fun c t _ => Sends.bind ?_ fun states u _ => ?_)
      fun a t _ => Sends.of_same rfl
    · exact (asks_fetch h server id' line).mono fun e he => .inr ⟨_, _, he⟩
    · exact (asks_states h server t).mono fun e he => .inl he
    · exact Sends.of_same rfl
  | write w =>
    cases w with
    | create c =>
      obtain rfl := Option.some.inj hop
      have hput := (sends_put h server c.id c line).mono fun e he =>
        (.inr ⟨_, _, he⟩ : h.request .get statesPath none = .ok e.request ∨
          h.Addresses c.id e.request)
      exact (hput.bind fun _ t _ => Sends.of_same rfl).bind fun _ t _ => Sends.of_same rfl
    | update id' c =>
      obtain rfl := Option.some.inj hop
      exact (sends_put h server id' c line).mono fun e he => .inr ⟨_, _, he⟩
    | delete id' =>
      obtain rfl := Option.some.inj hop
      exact (sends_delete h server id' line).mono fun e he => .inr ⟨_, _, he⟩
    | setEnabled id' b => cases hop

/-- What is sent for a config goes to the endpoint of its id, unless the id is one that is followed,
and no other id has that path. -/
theorem endpoint_exact (server : Server σ) (hbase : Address.IsBare base.toList) (token : String)
    (limit : Int) (ownsLine : Bool) :
    (∀ op id line, HubOperation.configId? op = some id →
      Sends Line.log (fun e =>
          (ofAddress base token limit ownsLine).request .get statesPath none = .ok e.request ∨
            (ofAddress base token limit ownsLine).Addresses id e.request)
        (op.on ((ofAddress base token limit ownsLine).hub server)) line) ∧
    (∀ id r, (ofAddress base token limit ownsLine).Addresses id r →
      (IsEndpoint id r.path ↔ id ≠ "" ∧ ¬IsFollowed id)) ∧
    ∀ id id' r r', (ofAddress base token limit ownsLine).Addresses id r →
      (ofAddress base token limit ownsLine).Addresses id' r' → r.path = r'.path → id = id' := by
  refine ⟨fun op id line hop => ?_, fun id r hr => ?_, fun id id' r r' hr hr' heq => ?_⟩
  · exact sends_addresses _ server hop line
  · rw [path_of_addresses hbase hr]
    exact isEndpoint_sentPath_iff
  · rw [path_of_addresses hbase hr, path_of_addresses hbase hr'] at heq
    exact sentPath_injective (String.ofList_injective heq)

def atRoot : RestHub :=
  ofAddress "http://hub/" "secret" 6 true

theorem isBare_root : Address.IsBare "http://hub/".toList :=
  ⟨"http".toList, "hub".toList, ['/'],
    ⟨⟨⟨'h', "ttp".toList, rfl, by decide⟩, List.all_eq_true.1 (by decide)⟩, by decide,
      List.all_eq_true.1 (by decide)⟩, by simp, rfl⟩

/-- An id with a slash and dots in it has an endpoint of its own. -/
theorem endpoint_exact_stairs :
    ∃ r, atRoot.Addresses "../stairs" r ∧ IsEndpoint "../stairs" r.path := by
  have hsent : atRoot.Addresses "../stairs" _ := ⟨.delete, none, rfl⟩
  refine ⟨_, hsent, ?_⟩
  exact ((endpoint_exact Script.server isBare_root "secret" 6 true).2.1 _ _ hsent).2
    ⟨by decide, by simp [IsFollowed]⟩

def DeletesAtEndpoint (id : String) : Prop :=
  Sends Line.log (fun e => IsEndpoint id e.request.path) (atRoot.delete Script.server id)
    ⟨[], [], true⟩

/-- What is sent to delete the config under `..` goes to a folder above all configs. -/
theorem not_deletesAtEndpoint_dots : ¬DeletesAtEndpoint "." ∧ ¬DeletesAtEndpoint ".." := by
  have hnot {id : String} (hid : IsFollowed id) {e : Http.Exchange}
      (hlog : ((atRoot.delete Script.server id).run ⟨[], [], true⟩).2.log = [e])
      (hsent : atRoot.Addresses id e.request) : ¬DeletesAtEndpoint id := by
    intro h
    obtain ⟨sent, hsends, hall⟩ := h
    rw [hlog, List.append_nil] at hsends
    have hendpoint : IsEndpoint id e.request.path :=
      hall e (hsends ▸ List.mem_singleton_self e)
    rw [path_of_addresses isBare_root hsent] at hendpoint
    exact (isEndpoint_sentPath_iff.1 hendpoint).2 hid
  exact ⟨hnot (.inl rfl) rfl ⟨.delete, none, rfl⟩, hnot (.inr rfl) rfl ⟨.delete, none, rfl⟩⟩

end RestHub

end HomePortal
