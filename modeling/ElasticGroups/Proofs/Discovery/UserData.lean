import ElasticGroups.Proofs.Boot.Rendering
import ElasticGroups.Proofs.Discovery.Survey
import ElasticGroups.Proofs.Text.Base64

/-!
# User data

The user data of a payload is the padded form of its script, so the script can be read back from it,
and the two values of the payload with it (`Boot.Payload.values_of_userData`). All node groups that a
cycle finds start their instances with the user data of the one payload of the catalog
(`Discovery.userData_of_refresh`).
-/

namespace ElasticGroups

open Boot Cloud Scaling Session Text

namespace Boot.Payload

/-- The user data shows both values of a payload. -/
theorem values_of_userData {p q : Payload} (h : p.userData = q.userData) :
    p.version = q.version ∧ p.joinCommand = q.joinCommand :=
  values_of_script (Base64.encodeText_injective h)

/-- There are four characters for every three bytes begun. -/
theorem length_userData (p : Payload) :
    p.userData.length = 4 * ((p.script.utf8ByteSize + 2) / 3) := by
  rw [userData, Base64.encodeText, String.length_ofList, Base64.length_encode, Base64.length_utf8]

end Boot.Payload

namespace Discovery

variable {clock : Clock} {record : List (Sigma Reply)}

/-- The node groups of a survey have the user data of the payload. -/
theorem Survey.userData_eq {settings : Settings} {payload : Payload} {groups : List InstanceGroup}
    {sightings : List Sighting} {found : Census}
    (h : Survey settings payload record groups sightings found) :
    ∀ g ∈ found.nodeGroups, g.template.userData = payload.userData := by
  intro g hg
  obtain ⟨s, -, -, bounds, attributes, -, -, rfl⟩ := h.exists_sighting hg
  rfl

/-- The node groups that a complete cycle finds have the user data of the payload. -/
theorem userData_of_refresh {c after : Catalog} {summary : Summary}
    (h : c.refresh.Transcript clock record (.ok summary, after)) :
    ∀ g ∈ after.nodeGroups, g.template.userData = c.payload.userData := by
  obtain ⟨found, hdiscover, -, rfl⟩ | ⟨error, ⟨⟩, -⟩ := transcript_refresh h
  obtain ⟨groups, sightings, hsurvey⟩ := survey_of_discover hdiscover
  exact hsurvey.userData_eq

/-- The user data of a payload is the padded form of the bytes of its script: four characters for
every three bytes begun, from which exactly these bytes are read back. No payload with other values
has the same user data, and every node group that a complete cycle finds has that of the payload of
the catalog, whoever the provider is. -/
theorem userData_exact (p : Payload) :
    (∃ f : Base64.Form (Base64.utf8 p.script), p.userData = String.ofList f.text) ∧
      p.userData.length = 4 * ((p.script.utf8ByteSize + 2) / 3) ∧
      Base64.decode? p.userData.toList = some (Base64.utf8 p.script) ∧
      (∀ q : Payload, p.userData = q.userData →
        p.version = q.version ∧ p.joinCommand = q.joinCommand) ∧
      ∀ (σ : Type) (clock : Clock) (respond : Responder Reply σ) (world : World σ) (c : Catalog)
        (summary : Summary), c.payload = p →
          (c.refresh.run clock respond world).1.1 = .ok summary →
            ∀ g ∈ (c.refresh.run clock respond world).1.2.nodeGroups,
              g.template.userData = p.userData := by
  refine ⟨?_, p.length_userData, Base64.decode?_encodeText p.script,
    fun q => Payload.values_of_userData, fun σ clock respond world c summary hpayload hok => ?_⟩
  · obtain ⟨f, hf⟩ := Base64.exists_form_encode (Base64.utf8 p.script)
    exact ⟨f, congrArg String.ofList hf.symm⟩
  · obtain ⟨record, htranscript, -⟩ := transcript_run clock respond c.refresh world
    have hresult : (c.refresh.run clock respond world).1 =
        (.ok summary, (c.refresh.run clock respond world).1.2) := Prod.ext hok rfl
    rw [hresult] at htranscript
    rw [← hpayload]
    exact userData_of_refresh htranscript

/-- A store with one group to scale: the instances of the group start with the user data of the
payload. -/
theorem userData_exact_store :
    let live (id : InstanceId) : Instance :=
      ⟨id, "n", "active", "t", ⟨"i", .available⟩, "z", ["main", "w"], none⟩
    let store : Store :=
      { groups := [⟨"main", "c", "", []⟩, ⟨"w", "w.c", "1:3", [⟨"a", "active"⟩]⟩]
        instances := OrderedMap.empty.insert "a" (live "a") }
    let join := "kubeadm join 10.0.0.1:6443 --token abcdef.0123456789abcdef " ++
      "--discovery-token-ca-cert-hash sha256:0123abcd"
    ∃ payload : Payload, payload.joinCommand = join ∧
      let c : Catalog := { settings := { clusterName := "c" }, payload }
      let run := c.refresh.run .bounded Store.respond ⟨store, .zero⟩
      run.1.1 = .ok ⟨1, 1, 0⟩ ∧ run.1.2.nodeGroups.length = 1 ∧
        (∀ g ∈ run.1.2.nodeGroups, g.template.userData = payload.userData) ∧
        ∀ q : Payload, payload.userData = q.userData → q.joinCommand = join := by
  intro live store join
  refine ⟨⟨"1.17.4", join, ⟨⟨1, 17, 4, [], []⟩, by decide +kernel⟩, by decide +kernel⟩, rfl, ?_⟩
  intro c run
  obtain ⟨-, -, -, hvalues, hcycle⟩ := userData_exact c.payload
  have hok : run.1.1 = .ok ⟨1, 1, 0⟩ := by decide +kernel
  have hlength : run.1.2.nodeGroups.length = 1 := by decide +kernel
  exact ⟨hok, hlength, hcycle Store .bounded Store.respond ⟨store, .zero⟩ c _ rfl hok,
    fun q hq => (hvalues q hq).2.symm⟩

end Discovery

end ElasticGroups
