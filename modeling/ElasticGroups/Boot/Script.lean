/-!
# Bootstrap script

The fixed part of the shell script that a new node runs when it boots. It expects two variables
to be set in front of it: the version to install and the command that joins the cluster.

## Main definitions

* `bootstrapLines`, `bootstrapText`: the script by lines and as a text.
-/

namespace ElasticGroups.Boot

/-- The lines of the script. -/
def bootstrapLines : List String :=
  [
    "",
    "set -euo pipefail",
    "",
    "# run_with_retries <attempts> <command...>",
    "run_with_retries() \x7b",
    "    local attempts=\"$1\"; shift",
    "    local n=1",
    "    until \"$@\"; do",
    "        if [ \"$n\" -ge \"$attempts\" ]; then",
    "            echo \"giving up after $\x7bn\x7d attempts: $*\" >&2",
    "            return 1",
    "        fi",
    "        echo \"attempt $\x7bn\x7d failed, retrying in $\x7bn\x7ds: $*\" >&2",
    "        sleep \"$n\"",
    "        n=$((n + 1))",
    "    done",
    "\x7d",
    "",
    "echo \"configuring kernel networking\"",
    "mkdir -p /etc/cni/net.d",
    "cat > /etc/cni/net.d/99-loopback.conf <<CONF",
    "\x7b",
    "  \"cniVersion\": \"0.3.1\",",
    "  \"type\": \"loopback\"",
    "\x7d",
    "CONF",
    "cat > /etc/sysctl.d/40-kubernetes.conf <<CONF",
    "net.ipv4.ip_forward=1",
    "net.ipv6.conf.all.disable_ipv6=1",
    "CONF",
    "run_with_retries 5 systemctl try-restart systemd-sysctl",
    "",
    "for module in br_netfilter ip_vs ip_vs_rr ip_vs_wrr ip_vs_sh; do",
    "    modprobe -- \"$module\"",
    "done",
    "",
    "echo \"configuring kubelet for an external cloud provider\"",
    "cat > /etc/default/kubelet <<CONF",
    "KUBELET_EXTRA_ARGS=--cloud-provider=external --cgroup-driver=systemd",
    "CONF",
    "",
    "echo \"installing kubernetes $\x7bk8s_version\x7d\"",
    "export DEBIAN_FRONTEND=noninteractive",
    "run_with_retries 5 apt-get -qq -y update",
    "run_with_retries 5 apt-get -qq -y install apt-transport-https ca-certificates curl software-properties-common",
    "echo \"adding the kubernetes package repository\"",
    "curl -fsSL https://packages.cloud.google.com/apt/doc/apt-key.gpg | apt-key add -",
    "apt-add-repository -y 'deb http://apt.kubernetes.io/ kubernetes-xenial main'",
    "run_with_retries 5 apt-get -qq -y update",
    "run_with_retries 5 apt-get -qq -y install \\",
    "    socat conntrack ipset containerd \\",
    "    \"kubeadm=$\x7bk8s_version\x7d-00\" \\",
    "    \"kubectl=$\x7bk8s_version\x7d-00\" \\",
    "    \"kubelet=$\x7bk8s_version\x7d-00\"",
    "apt-mark hold kubelet kubeadm kubectl",
    "",
    "if [ -d /run/containerd ]; then",
    "    echo \"switching containerd to the systemd cgroup driver\"",
    "    mkdir -p /etc/containerd",
    "    cat > /etc/containerd/config.toml <<CONF",
    "[plugins.\"io.containerd.grpc.v1.cri\"]",
    "systemd_cgroup = true",
    "CONF",
    "    systemctl reload-or-restart containerd",
    "    cat > /etc/crictl.yaml <<CONF",
    "runtime-endpoint: unix:///run/containerd/containerd.sock",
    "CONF",
    "fi",
    "",
    "systemctl enable kubelet.service",
    "",
    "echo \"joining cluster\"",
    "run_with_retries 5 $\x7bkubeadm_join_command\x7d"]

/-- The script as a text, every line ended by a line break. -/
def bootstrapText : String := String.join (bootstrapLines.map (· ++ "\n"))

end ElasticGroups.Boot
