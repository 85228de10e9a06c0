import GuidedChat.Guided.Flow

/-! The two guided flows on offer: the story that introduces the rest, and the work of
letting go of a limit. -/

namespace GuidedChat.GuidedFlow

def introduction : GuidedFlow :=
  (ofSteps [
    .tap "origin" (.fixed
      "もともと、ぼくたちは完全な意識でした。\n\nやりたいことは何でもできて、\n無限の可能性として、無条件の愛に満ちていた。"),
    .tap "curiosity" (.fixed
      "その意識が、「地球」という惑星を見つけたんです。\n\n「できない」という概念は、\n自分にはまったくないものでした。"),
    .tap "separation" (.fixed
      "そこで、ぼくたちは自分の意識を\n何等分にも「分離」させて、\n自らの波動を下げていきました。"),
    .tap "projector" (.fixed
      "自分が「映写機」。\nその映写機に入れた周波数が、\n真っ白な現実のスクリーンに映し出されていく。")
  ]).withCompletionMessage
    "ストーリーを読んでいただきありがとうございます。\n\nホームに戻って、ワークを始めてみましょう ✨"

def lettingGo : GuidedFlow :=
  ofSteps [
    .tap "arrive" (.fixed
      "映写機の場所に立ちます。\n深呼吸をして、からだの感覚に意識を向けましょう。"),
    (Step.ask "limit" "limit" (.fixed
      "いま手放したい「制限」を、ひとことで書いてみてください。")).withPlaceholder
        "例：どうせ自分にはできない",
    .select "where" "where"
      (.ofParts [.words "「", .answer "limit" "その制限",
        .words "」を感じるとき、からだのどこに重さがありますか？"])
      ["胸", "お腹", "喉", "頭"],
    .tap "release"
      (.ofParts [.answer "where" "からだ",
        .words "にある重さを、映写機からそっと取り出すイメージをします。\n\n取り出せたら、タップしてください。"])
  ]

end GuidedChat.GuidedFlow
