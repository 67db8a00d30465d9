import MeshTrace.Campaign.Summary
import MeshTrace.Report.Document
import MeshTrace.Run.Summary

namespace MeshTrace.Report

open Document

def pairDocument (m : MeanSpread Float) : Document :=
  record [("mean", float m.mean), ("spread", float m.spread)]

def fairnessDocument (f : Fairness Float) : Document :=
  record [("pdr", float f.pdr), ("parent_switches", float f.parentSwitches),
    ("delay", float f.delay), ("jitter", float f.jitter)]

/-- The figures of a run. -/
def scalarsDocument (s : RunScalars Float) : Document :=
  record [("link_par", float s.linkPar), ("link_queue_dropped", nat s.linkQueueDropped),
    ("pdr", pairDocument s.pdr), ("total_sent", nat s.totalSent),
    ("total_received", nat s.totalReceived), ("parent_switches", pairDocument s.parentSwitches),
    ("avg_time_joined", float s.meanTimeJoined), ("delay", pairDocument s.delay),
    ("jitter", pairDocument s.jitter), ("fairness", fairnessDocument s.fairness)]

/-- The record of a node. The single delays are left out. -/
def nodeDocument (r : NodeRecord Float) : Document :=
  record [("id", nat r.id), ("is_valid", bool r.isValid), ("pdr", float r.pdr), ("par", float r.par),
    ("packets_sent", nat r.packetsSent), ("packets_received", nat r.packetsReceived),
    ("rpl_switches", nat r.parentSwitches), ("duty_cycle", float r.dutyCycle),
    ("duty_cycle_joined", float r.dutyCycleJoined), ("charge", float r.charge),
    ("time_joined", float r.timeJoined), ("avg_e2e_delay", float r.meanDelay),
    ("jitter", float r.jitter), ("link_tx", nat r.linkTx), ("link_ack", nat r.linkAck),
    ("link_queue_dropped", nat r.linkQueueDropped)]

def diagnosticsDocument (d : Diagnostics) : Document :=
  record [("lines_read", nat d.linesRead), ("events", nat d.events),
    ("malformed_lines", nat d.malformedLines), ("duplicate_sent", nat d.duplicateSent),
    ("duplicate_received", nat d.duplicateReceived),
    ("unmatched_received", nat d.unmatchedReceived),
    ("zero_energest_nodes", nat d.zeroEnergestNodes),
    ("zero_tick_rate_nodes", nat d.zeroTickRateNodes),
    ("missing_end_marker", bool d.missingEndMarker)]

def summaryDocument (s : RunSummary Float) : Document :=
  record [("nodes", list (s.nodes.map nodeDocument)), ("node_count", nat s.nodeCount),
    ("sim_time_ms", int s.endTime), ("link_tx", nat s.linkTx), ("link_ack", nat s.linkAck),
    ("link_queue_dropped", nat s.linkQueueDropped), ("link_par", float s.linkPar),
    ("total_sent", nat s.totalSent), ("total_received", nat s.totalReceived),
    ("end_to_end_pdr", float s.endToEndPdr), ("total_parent_switches", nat s.parentSwitchTotal),
    ("avg_time_joined", float s.meanTimeJoined), ("fairness", fairnessDocument s.fairness),
    ("fairness_excluded", nat s.fairnessExcluded), ("pdr", pairDocument s.pdr),
    ("parent_switches", pairDocument s.parentSwitches), ("delay", pairDocument s.delay),
    ("jitter", pairDocument s.jitter), ("packet_jitter", float s.packetJitter),
    ("diagnostics", diagnosticsDocument s.diagnostics)]

/-- The document about a run: when it was analyzed, where its trace is, and the result. -/
def runDocument (timestamp tracePath : String) (framing : Framing) (s : RunSummary Float) :
    Document :=
  record [("metadata", record [("analysis_timestamp", text timestamp),
      ("trace_path", text tracePath), ("framing", text framing.name)]),
    ("summary", summaryDocument s)]

def spreadName : SpreadKind → String
  | .confidence => "confidence"
  | .deviation => "std_dev"

def campaignDocument (s : CampaignSummary Float) : Document :=
  record [("runs", nat s.runs), ("spread_kind", text (spreadName s.spreadKind)),
    ("confidence_level", float s.confidenceLevel), ("link_par", pairDocument s.linkPar),
    ("link_queue_dropped", pairDocument s.linkQueueDropped), ("pdr", pairDocument s.pdr),
    ("end_to_end_pdr", pairDocument s.endToEndPdr), ("total_sent", pairDocument s.totalSent),
    ("total_received", pairDocument s.totalReceived),
    ("parent_switches", pairDocument s.parentSwitches),
    ("avg_time_joined", pairDocument s.meanTimeJoined), ("delay", pairDocument s.delay),
    ("jitter", pairDocument s.jitter), ("fairness_pdr", pairDocument s.fairness.pdr),
    ("fairness_parent_switches", pairDocument s.fairness.parentSwitches),
    ("fairness_delay", pairDocument s.fairness.delay),
    ("fairness_jitter", pairDocument s.fairness.jitter)]

/-- The document about several runs: when they were put together, where they are, their labels in
order, and the result. -/
def campaignReportDocument (timestamp directory : String) (labels : List String)
    (s : CampaignSummary Float) : Document :=
  record [("analysis_timestamp", text timestamp), ("runs_directory", text directory),
    ("run_labels", list (labels.map text)), ("summary", campaignDocument s)]

end MeshTrace.Report
