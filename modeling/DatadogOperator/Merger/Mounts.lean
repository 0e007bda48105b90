import DatadogOperator.Lib.Runs
import DatadogOperator.Merger.Containers

/-!
# Mount paths

Kubernetes wants the mount paths of a container to be different. A mount that is added takes
the place of every mount of its volume and of the mount at its path. If these are two mounts,
it stands in both places, and the path is there twice.
-/

namespace DatadogOperator.Merger

open Runs

def Container.PathsDistinct (c : Container) : Prop := (c.volumeMounts.map (·.mountPath)).Nodup

instance (c : Container) : Decidable c.PathsDistinct :=
  inferInstanceAs (Decidable (List.Nodup _))

/-- What a manager does with a container it means, by default. -/
def addVolumeMountByDefault (c : Container) (m : VolumeMount) : Container :=
  (addVolumeMountToContainerWithMergeFunc m (some defaultVolumeMountMergeFunction) c).1

theorem addVolumeMountByDefault_volumeMounts (c : Container) (m : VolumeMount) :
    (addVolumeMountByDefault c m).volumeMounts = Tables.put m.sameAs m c.volumeMounts :=
  congrArg Prod.fst (Tables.add_override m.sameAs m c.volumeMounts)

theorem addVolumeMountByDefault_distinct_iff (h : c.PathsDistinct) (m : VolumeMount) :
    (addVolumeMountByDefault c m).PathsDistinct ↔ (c.volumeMounts.filter m.sameAs).length ≤ 1 := by
  rw [Container.PathsDistinct, addVolumeMountByDefault_volumeMounts]
  refine Tables.nodup_map_put_iff (fun x _ hpath => ?_) h
  simp [VolumeMount.sameAs, hpath]

theorem mem_addVolumeMountByDefault (c : Container) (m : VolumeMount) :
    m ∈ (addVolumeMountByDefault c m).volumeMounts := by
  rw [addVolumeMountByDefault_volumeMounts]
  exact Tables.mem_put _ _ _

/-- Mount by mount, the paths stay different exactly if no mount that is added meets two
mounts that are there. -/
theorem mount_paths_stay_distinct_iff (c : Container) (h : c.PathsDistinct)
    (mounts : List VolumeMount) :
    Along addVolumeMountByDefault (fun c m => (addVolumeMountByDefault c m).PathsDistinct ∧
      m ∈ (addVolumeMountByDefault c m).volumeMounts) c mounts ↔
    Along addVolumeMountByDefault (fun c m => (c.volumeMounts.filter m.sameAs).length ≤ 1)
      c mounts := by
  induction mounts generalizing c with
  | nil => exact Iff.rfl
  | cons m mounts ih =>
    have hstep := addVolumeMountByDefault_distinct_iff h m
    constructor
    · rintro ⟨⟨hdistinct, -⟩, hrest⟩
      exact ⟨hstep.mp hdistinct, (ih _ hdistinct).mp hrest⟩
    · rintro ⟨hone, hrest⟩
      have hdistinct := hstep.mpr hone
      exact ⟨⟨hdistinct, mem_addVolumeMountByDefault c m⟩, (ih _ hdistinct).mpr hrest⟩

def mountedAgent : Container where
  name := "agent"
  volumeMounts := [{ name := "config", mountPath := "/etc/datadog-agent" },
    { name := "logdatadog", mountPath := "/var/log/datadog" }]

theorem new_mounts_stay_distinct :
    Along addVolumeMountByDefault (fun c m => (addVolumeMountByDefault c m).PathsDistinct ∧
      m ∈ (addVolumeMountByDefault c m).volumeMounts) mountedAgent
      [{ name := "procdir", mountPath := "/host/proc", readOnly := true },
        { name := "config", mountPath := "/conf" }] :=
  (mount_paths_stay_distinct_iff mountedAgent (by decide) _).mpr (by decide)

/-- The configuration is mounted where the logs were. -/
theorem moved_mount_is_there_twice : mountedAgent.PathsDistinct ∧
      ¬(addVolumeMountByDefault mountedAgent
        { name := "config", mountPath := "/var/log/datadog" }).PathsDistinct := by
  decide

end DatadogOperator.Merger
